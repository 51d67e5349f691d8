import ApiAtlas.Proofs.Client.Characters
import ApiAtlas.Proofs.Client.Shadowing
import ApiAtlas.Proofs.Client.Spelling

/-!
# Imported names

A client imports the names of the runtime that its code refers to, and no others. Which ones these
are depends on the methods alone: a client without any needs the connection only, and the function
that encodes a key is needed for the methods of resources with keys.

A name that a client makes up may be spelled like one of the runtime. What its code refers to is
therefore looked for in the code of the same client with all of its own names left out.
-/

namespace ApiAtlas.Client

open Checks Descriptor Layout Lexical Naming Resources

/-! ## Code without own names -/

def Accessor.anonymous (a : Accessor) : Accessor :=
  { name := "", doc := [], target := ""
    inherited := List.replicate a.inherited.length ""
    key? := a.key?.map fun _ => "" }

def PathTemplate.anonymous (p : PathTemplate) : PathTemplate :=
  { p with keys := List.replicate p.keys.length "" }

def Argument.anonymous (a : Argument) : Argument := { a with name := "" }

@[simp] theorem Argument.name_anonymous (a : Argument) : a.anonymous.name = "" := rfl

def Operation.anonymous (o : Operation) : Operation :=
  { o with
    name := "", doc := []
    path := o.path.anonymous
    arguments := o.arguments.map Argument.anonymous }

/-- A type without its documentation and without the names that the client makes up. The texts in
literals stay. -/
def ClientType.anonymous (t : ClientType) : ClientType :=
  { name := "", doc := []
    keys := List.replicate t.keys.length ""
    accessors := t.accessors.map Accessor.anonymous
    operations := t.operations.map Operation.anonymous }

namespace Code

/-- The names of the runtime among the identifiers in a text. A literal has none. -/
def importsIn (text : String) : List String :=
  if text.toList.head? = some '"' then []
  else ((text.toList.splitOnP (!isNameChar ·)).map String.ofList).filter importable.contains

/-- The names of the runtime that some code refers to, as often as it does. -/
def importsOf (docs : List Doc) : List String := (textsOf docs).flatMap importsIn

end Code

/-- Whether the code of a type refers to a name of the runtime. -/
def ClientType.RefersTo (t : ClientType) (name : String) : Prop :=
  name ∈ Code.importsOf (Code.declaration t.anonymous ++ Code.implementation t.anonymous)

namespace Code

/-! ## What code refers to -/

/-- The texts of code that name nothing of the runtime. -/
def ownTexts : List String := [
  "", " ", ",", ";", ".", "?", "(", ")", "<", ">", " \x7b", "\x7d", ": ", "::new", "&", "'a",
  "self", "client", "clone", "to_string", "set", "set_indexed", "execute", "Some", "Self", "bool",
  "i64", "u32", "&str", "String", "Option", "Result", "()", "&::std::collections::BTreeMap",
  "impl ::std::fmt::Display", "#[derive(Clone)]", "pub struct ", "impl", "pub fn (", "pub fn new(",
  " -> ", "client: ", "&self", "let req_params = ", "let mut req_params = ", "req_params",
  ".client", "&format!(", "Ok(())"]

theorem importsIn_texts : (∀ text ∈ ownTexts, importsIn text = []) ∧
    importsIn " Client" = ["Client"] ∧ importsIn "ClientError" = ["ClientError"] ∧
    importsIn "ApiResult" = ["ApiResult"] ∧ importsIn "Params::new" = ["Params"] ∧
    importsIn "encode_segment(&" = [encodeFunction] ∧ importsIn "Verb::Get" = ["Verb"] ∧
    importsIn "Verb::Post" = ["Verb"] ∧ importsIn "Verb::Put" = ["Verb"] ∧
    importsIn "Verb::Delete" = ["Verb"] := by
  decide +kernel

theorem importsIn_own {text : String} (h : ownTexts.contains text = true) :
    importsIn text = [] :=
  importsIn_texts.1 text (List.contains_iff_mem.mp h)

@[simp] theorem importsIn_literal (text : String) : importsIn (literal text) = [] := by
  simp [importsIn, literal]

theorem importsIn_verbName (verb : Verb) : importsIn (verbName verb) = ["Verb"] := by
  cases verb <;> simp [importsIn_texts, verbName]

@[simp] theorem importsOf_nil : importsOf [] = [] := rfl

@[simp] theorem importsOf_text (s : String) (docs : List Doc) :
    importsOf (.text s :: docs) = importsIn s ++ importsOf docs := rfl

@[simp] theorem importsOf_gap (g : Gap) (docs : List Doc) :
    importsOf (.gap g :: docs) = importsIn g.atBreak ++ importsOf docs := rfl

@[simp] theorem importsOf_box (style : Style) (indent : Int) (limit : Option Nat)
    (content docs : List Doc) :
    importsOf (.box style indent limit content :: docs) = importsOf content ++ importsOf docs := by
  simp [importsOf, textsOf, Doc.texts]

@[simp] theorem importsOf_append (front back : List Doc) :
    importsOf (front ++ back) = importsOf front ++ importsOf back := by
  simp [importsOf]

@[simp] theorem importsOf_word (s : String) : importsOf (word s) = importsIn s := by
  simp [word]

@[simp] theorem importsOf_flatten (parts : List (List Doc)) :
    importsOf parts.flatten = parts.flatMap importsOf := by
  induction parts with
  | nil => rfl
  | cons part parts ih => simp [ih]

theorem importsOf_intercalate {separator : List Doc} (h : importsOf separator = [])
    (items : List (List Doc)) :
    importsOf (separator.intercalate items) = items.flatMap importsOf := by
  induction items with
  | nil => rfl
  | cons item rest ih =>
    cases rest with
    | nil => simp
    | cons next rest =>
      rw [List.intercalate_cons_cons, importsOf_append, importsOf_append, h, ih, List.append_nil]
      rfl

@[simp] theorem importsOf_cbox (indent : Int) (content : List Doc) :
    importsOf (cbox indent content) = importsOf content := by simp [cbox]

@[simp] theorem importsOf_ibox (indent : Int) (content : List Doc) :
    importsOf (ibox indent content) = importsOf content := by simp [ibox]

@[simp] theorem importsOf_separated (items : List (List Doc)) :
    importsOf (separated items) = items.flatMap importsOf :=
  importsOf_intercalate (by simp [blank, importsIn_own, ownTexts]) items

@[simp] theorem importsOf_listing (indent : Int) (items : List (List Doc)) :
    importsOf (listing indent items) = items.flatMap importsOf := by
  cases items with
  | nil => rfl
  | cons item rest => simp [listing, cut, importsIn_own, ownTexts]

@[simp] theorem importsOf_inParens (items : List (List Doc)) :
    importsOf (inParens items) = items.flatMap importsOf := by
  simp [inParens, importsIn_own, ownTexts]

@[simp] theorem importsOf_inAngles (items : List (List Doc)) :
    importsOf (inAngles items) = items.flatMap importsOf := by
  simp [inAngles, importsIn_own, ownTexts]

@[simp] theorem importsOf_lineBlock (entries : List (List Doc)) :
    importsOf (lineBlock entries) = entries.flatMap importsOf := by
  have hends : importsOf (if entries.isEmpty then [] else [blockEnd]) = [] := by
    cases entries <;> simp [blockEnd, importsIn_own, ownTexts]
  rw [lineBlock, importsOf_append, hends, List.append_nil,
    importsOf_intercalate (by simp [lineEnd, importsIn_own, ownTexts])]

@[simp] theorem importsOf_link (name : String) : importsOf (link name) = importsIn name := by
  simp [link, cut, importsIn_own, ownTexts]

@[simp] theorem importsOf_callLink (name : String) (arguments : List (List Doc)) :
    importsOf (callLink name arguments) = importsIn name ++ arguments.flatMap importsOf := by
  simp [callLink]

@[simp] theorem importsOf_chain (head : List Doc) (links : List (List Doc)) :
    importsOf (chain head links) = importsOf head ++ links.flatMap importsOf := by
  simp [chain]

@[simp] theorem importsOf_life : importsOf life = [] := by
  simp [life, importsIn_own, ownTexts]

@[simp] theorem importsOf_typed (name : String) (type : List Doc) :
    importsOf (typed name type) = importsIn (name ++ ": ") ++ importsOf type := by
  simp [typed]

@[simp] theorem importsOf_statement (expression : List Doc) :
    importsOf (statement expression) = importsOf expression := by
  simp [statement, importsIn_own, ownTexts]

@[simp] theorem importsOf_value (expression : List Doc) :
    importsOf (value expression) = importsOf expression := by
  simp [value]

@[simp] theorem importsOf_connectionType : importsOf connectionType = ["Client"] := by
  simp [connectionType, importsIn_own, ownTexts, importsIn_texts]

@[simp] theorem importsOf_argumentType (a : Argument) : importsOf (argumentType a) = [] := by
  unfold argumentType
  cases a.isFamily <;> cases a.isOptional <;> cases a.valueType <;>
    simp [importsIn_own, ownTexts]

theorem importsOf_function (name : String) (parameters : List (List Doc)) (result : List Doc)
    (statements : List (List Doc)) :
    importsOf (function [] name parameters result statements) =
      importsIn ("pub fn " ++ name ++ "(") ++ parameters.flatMap importsOf ++ importsOf result ++
        statements.flatMap importsOf := by
  simp [function, docComment, lineEnd, importsIn_own, ownTexts]

/-! ## The parts of a type -/

theorem importsOf_typedFields (t : ClientType) :
    (typedFields t.anonymous).flatMap importsOf = ["Client"] := by
  rw [typedFields_eq]
  simp [ClientType.anonymous, List.flatMap_replicate, importsIn_own, ownTexts]

theorem importsOf_constructor (t : ClientType) :
    importsOf (constructor t.anonymous) = ["Client"] := by
  rw [constructor, importsOf_function, importsOf_typedFields]
  simp [ClientType.anonymous, ClientType.fields, record, List.flatMap_replicate, blank,
    importsIn_own, ownTexts]

theorem importsOf_accessor (a : Accessor) : importsOf (accessor a.anonymous) = [] := by
  rw [accessor, Accessor.anonymous, importsOf_function]
  cases a.key? <;>
    simp [List.flatMap_replicate, borrowing, ownField, ownCopy, keyText, importsIn_own, ownTexts]

theorem importsOf_path (p : PathTemplate) :
    importsOf (path p.anonymous) = List.replicate p.keys.length encodeFunction := by
  unfold path PathTemplate.anonymous
  cases p.keys.length with
  | zero => simp
  | succ n =>
    simp [List.flatMap_replicate, cut, blank, importsIn_own, ownTexts, importsIn_texts]

theorem importsOf_setField (a : Argument) : importsOf (setField a.anonymous) = [] := by
  unfold setField
  cases a.anonymous.isFamily <;> cases a.anonymous.isOptional <;>
    simp [Argument.anonymous, importsIn_own, ownTexts]

def neededBy (o : Operation) : List String :=
  (if o.returnsAnswer then ["ApiResult"] else []) ++ ["ClientError", "Params", "Verb"] ++
    List.replicate o.path.keys.length encodeFunction

theorem mem_neededBy (o : Operation) (name : String) : name ∈ neededBy o ↔
    (o.returnsAnswer = true ∧ name = "ApiResult") ∨ name ∈ ["ClientError", "Params", "Verb"] ∨
      (o.path.keys ≠ [] ∧ name = encodeFunction) := by
  rw [neededBy, List.mem_append, List.mem_append, List.mem_replicate, ne_eq,
    List.length_eq_zero_iff, or_assoc]
  cases o.returnsAnswer <;> simp

theorem importsOf_newFields (isChanged : Bool) : importsOf (newFields isChanged) = ["Params"] := by
  cases isChanged <;> simp [newFields, importsIn_own, ownTexts, importsIn_texts]

theorem importsOf_sending (o : Operation) : (sending o.anonymous).flatMap importsOf =
    "Verb" :: List.replicate o.path.keys.length encodeFunction := by
  have hpath : importsOf (path o.anonymous.path) =
      List.replicate o.path.keys.length encodeFunction := importsOf_path o.path
  unfold sending request
  split <;> simp [hpath, importsIn_verbName, importsIn_own, ownTexts]

theorem importsOf_operation (o : Operation) : importsOf (operation o.anonymous) = neededBy o := by
  have hsets : (o.anonymous.arguments.map setField).flatMap importsOf = [] := by
    simp [Operation.anonymous, List.flatMap_map, importsOf_setField]
  have htypes : (o.anonymous.arguments.map fun a => typed a.name (argumentType a)).flatMap
      importsOf = [] := by
    simp [Operation.anonymous, List.flatMap_map, importsIn_own, ownTexts]
  have hname : o.anonymous.name = "" := rfl
  have hdoc : o.anonymous.doc = [] := rfl
  have hreturns : o.anonymous.returnsAnswer = o.returnsAnswer := rfl
  rw [operation, hdoc, importsOf_function, neededBy]
  cases ho : o.returnsAnswer <;>
    simp [hname, hsets, htypes, hreturns, ho, importsOf_newFields, importsOf_sending, importsIn_own,
      ownTexts, importsIn_texts]

theorem importsOf_declaration (t : ClientType) :
    importsOf (declaration t.anonymous) = ["Client"] := by
  have hfields : ((typedFields t.anonymous).map (· ++ word ",")).flatMap importsOf = ["Client"] := by
    rw [List.flatMap_map, ← importsOf_typedFields t]
    simp [importsIn_own, ownTexts]
  have hname : t.anonymous.name = "" := rfl
  have hdoc : t.anonymous.doc = [] := rfl
  rw [declaration, hname, hdoc]
  simp [hfields, docComment, lifeParameter, blank, lineEnd, importsIn_own, ownTexts]

theorem importsOf_implementation (t : ClientType) :
    importsOf (implementation t.anonymous) = "Client" :: t.operations.flatMap neededBy := by
  have haccessors : (t.anonymous.accessors.map accessor).flatMap importsOf = [] := by
    simp [ClientType.anonymous, List.flatMap_map, importsOf_accessor]
  have hoperations : (t.anonymous.operations.map operation).flatMap importsOf =
      t.operations.flatMap neededBy := by
    simp [ClientType.anonymous, List.flatMap_map, importsOf_operation]
  have hname : t.anonymous.name = "" := rfl
  simp [implementation, borrowing, lifeParameter, lineEnd, hname, haccessors, hoperations,
    importsOf_constructor, importsIn_own, ownTexts]

end Code

/-- A type refers to the connection and to what its operations need. -/
theorem ClientType.refersTo_iff (t : ClientType) (name : String) :
    t.RefersTo name ↔ name = "Client" ∨ ∃ o ∈ t.operations, name ∈ Code.neededBy o := by
  simp [RefersTo, Code.importsOf_declaration, Code.importsOf_implementation]

/-! ## What is imported -/

section Modules

variable (m : ClientModule)

theorem imports_sublist : m.imports.Sublist importable := by
  have hpart : ∀ (used : Operation → Bool) (names : List String),
      (if m.operations.any used then names else []).Sublist names := by
    intro used names
    split
    · exact List.Sublist.refl names
    · exact List.nil_sublist names
  exact (((hpart _ _).append (List.Sublist.refl _)).append (hpart _ _)).append (hpart _ _)

theorem nodup_imports : m.imports.Nodup :=
  List.Nodup.sublist (imports_sublist m) (by decide)

theorem mem_imports_iff (name : String) :
    name ∈ m.imports ↔ name = "Client" ∨ ∃ o ∈ m.operations, name ∈ Code.neededBy o := by
  have hpart : ∀ (used : Operation → Bool) (names : List String),
      name ∈ (if m.operations.any used then names else []) ↔
        ∃ o ∈ m.operations, used o = true ∧ name ∈ names := by
    intro used names
    by_cases hany : m.operations.any used = true
    · obtain ⟨o, ho, hused⟩ := List.any_eq_true.mp hany
      rw [if_pos hany]
      exact ⟨fun hname => ⟨o, ho, hused, hname⟩, fun ⟨_, _, _, hname⟩ => hname⟩
    · rw [if_neg hany]
      refine iff_of_false List.not_mem_nil ?_
      rintro ⟨o, ho, hused, -⟩
      exact hany (List.any_eq_true.mpr ⟨o, ho, hused⟩)
  have hkeys : ∀ o : Operation, (!o.path.keys.isEmpty) = true ↔ o.path.keys ≠ [] := by simp
  simp only [ClientModule.imports, List.mem_append, hpart, Code.mem_neededBy, hkeys, and_or_left,
    exists_or, List.mem_singleton, true_and, encodeFunction]
  rw [or_assoc, or_assoc, or_left_comm]

/-- A client that has types imports the names that they refer to, and no others. -/
theorem mem_imports_iff_refersTo (hm : m.types ≠ []) (name : String) :
    name ∈ m.imports ↔ ∃ t ∈ m.types, t.RefersTo name := by
  simp only [mem_imports_iff, ClientType.refersTo_iff, and_or_left, exists_or,
    ClientModule.operations, List.mem_flatMap]
  obtain ⟨t, ht⟩ := List.exists_mem_of_ne_nil m.types hm
  constructor
  · rintro (hname | ⟨o, ⟨t, ht, ho⟩, hname⟩)
    · exact .inl ⟨t, ht, hname⟩
    · exact .inr ⟨t, ht, o, ho, hname⟩
  · rintro (⟨_, _, hname⟩ | ⟨t, ht, o, ho, hname⟩)
    · exact .inl hname
    · exact .inr ⟨o, ⟨t, ht, ho⟩, hname⟩

end Modules

/-! ## Built catalogs -/

/-- Whether some resource of a catalog has a method of a kind. -/
def SomeMethod (c : Catalog) (kind : Resource → Method → Prop) : Prop :=
  ∃ id < c.rows.size, ∃ m ∈ (c.get id).methods, kind (c.get id) m

/-- Whether names are those that the methods of a catalog need of the runtime, each once. -/
structure NeededFor (c : Catalog) (names : List String) : Prop where
  nodup : names.Nodup
  importable : ∀ name ∈ names, name ∈ importable
  connection : "Client" ∈ names
  requests : ∀ name ∈ ["ClientError", "Params", "Verb"],
    (name ∈ names ↔ SomeMethod c fun _ _ => True)
  answers : "ApiResult" ∈ names ↔ SomeMethod c fun _ m => m.returns.kind ≠ .none
  keys : encodeFunction ∈ names ↔ SomeMethod c fun r _ => r.keyChain ≠ []

variable {document : Json} {c : Catalog}

/-- What holds of an operation of a client for its resource and its method. -/
theorem exists_operation_iff (h : Catalog.build document = .ok c) (s : Settings)
    {used : Operation → Prop} {kind : Resource → Method → Prop}
    (hused : ∀ id < c.rows.size, ∀ m name,
      used (operationOf s.reserved (c.get id) m name) ↔ kind (c.get id) m) :
    (∃ o ∈ (assemble c s).operations, used o) ↔ SomeMethod c kind := by
  constructor
  · rintro ⟨o, ho, ho'⟩
    obtain ⟨id, hid, m, hm, name, rfl⟩ := exists_of_mem_clientOperations h s ho
    exact ⟨id, hid, m, hm, (hused id hid m name).mp ho'⟩
  · rintro ⟨id, hid, m, hm, hkind⟩
    obtain ⟨name, ho⟩ := exists_clientOperation h s hid hm
    exact ⟨_, ho, (hused id hid m name).mpr hkind⟩

theorem neededFor_imports (h : Catalog.build document = .ok c) (s : Settings) :
    NeededFor c (assemble c s).imports where
  nodup := nodup_imports _
  importable := imports_subset _
  connection := (mem_imports_iff _ _).mpr (.inl rfl)
  requests := by
    intro name hname
    have hne : name ≠ "Client" := by
      rintro rfl
      exact absurd hname (by decide)
    rw [mem_imports_iff, or_iff_right hne]
    refine exists_operation_iff h s fun id _ m _ => iff_of_true ?_ trivial
    exact (Code.mem_neededBy _ _).mpr (.inr (.inl hname))
  answers := by
    rw [mem_imports_iff, or_iff_right (by decide)]
    refine exists_operation_iff h s fun id _ m _ => ?_
    simp [Code.mem_neededBy, operationOf, encodeFunction]
  keys := by
    rw [mem_imports_iff, or_iff_right (by decide)]
    refine exists_operation_iff h s fun id hid m name => ?_
    rw [← callsEncode_operationOf h s.reserved hid m name, callsEncode_iff]
    simp [Code.mem_neededBy, encodeFunction]

/-- The code of the client of a built catalog has one line that imports names. It lists each name
that is needed once: the connection always, the names for requests exactly if some resource has a
method, the name of answers exactly if some method returns one, and the function that encodes a key
exactly if some resource with keys has a method. These are the names of the runtime that the code of
its types refers to. -/
theorem imports_needed {code : String} {s : Settings} (h : Catalog.build document = .ok c)
    (hcode : generate c s = .ok code) :
    (∃ runtime, ModulePath.ofText? s.runtimePath = some runtime ∧
        code = headerText s.header ++ Layout.render (Code.cbox 0
          (Code.importLine runtime (assemble c s).imports ++
            (assemble c s).types.flatMap fun t => Code.declaration t ++ Code.implementation t)) ∧
        spellingOf (Code.importLine runtime (assemble c s).imports) =
          "use " ++ (if runtime.isAbsolute then "::" else "") ++
            String.join (runtime.segments.map (· ++ "::")) ++
            (if (assemble c s).imports.length = 1 then ",".intercalate (assemble c s).imports
              else "\x7b" ++ ",".intercalate (assemble c s).imports ++ "\x7d") ++ ";\n") ∧
      NeededFor c (assemble c s).imports ∧
      ∀ name, name ∈ (assemble c s).imports ↔ ∃ t ∈ (assemble c s).types, t.RefersTo name := by
  obtain ⟨runtime, hruntime, htext⟩ := bind_eq_ok.mp hcode
  refine ⟨⟨runtime, (Code.checkNames_ok hruntime).2, (Except.ok.inj htext).symm,
    Code.spellingOf_importLine ..⟩, neededFor_imports h s, mem_imports_iff_refersTo _ ?_⟩
  exact List.cons_ne_nil _ _

/-- A method on a literal below a placeholder that returns nothing needs no name of answers. -/
theorem imports_needed_disks : ∃ c code, Catalog.build (leafDocument "disks") = .ok c ∧
    generate c {} = .ok code ∧ (assemble c {}).imports =
      ["Client", "ClientError", "Params", "Verb", "encode_segment"] ∧
    NeededFor c (assemble c {}).imports ∧
    ∃ t ∈ (assemble c {}).types, t.RefersTo "encode_segment" := by
  obtain ⟨c, hc, hcode, himports⟩ := Catalog.exists_built (leafDocument "disks") (P := fun c =>
    (generate c {}).toOption.isSome = true ∧ (assemble c {}).imports =
      ["Client", "ClientError", "Params", "Verb", "encode_segment"]) (by decide +kernel)
  obtain ⟨code, hcode⟩ := exists_eq_ok hcode
  obtain ⟨-, hneeded, hrefers⟩ := imports_needed hc hcode
  refine ⟨c, code, hc, hcode, himports, hneeded, (hrefers "encode_segment").mp ?_⟩
  rw [himports]
  decide

end ApiAtlas.Client
