import ApiAtlas.Proofs.Client.Documentation

/-!
# Code without carriage returns

Names have no carriage returns in them, and literals write them as escapes. So there is none in the
code of a client without its documentation, if the names of the client have been checked.
-/

namespace ApiAtlas.Client

open Checks Descriptor Layout Lexical Naming Resources Text

/-! ## Literals and names -/

theorem return_not_mem_toDigits {n : Nat} : '\r' ∉ Nat.toDigits 16 n := by
  induction n using Nat.strongRecOn with
  | ind n ih =>
    by_cases hn : n < 16
    · rw [Nat.toDigits_of_lt_base hn]
      simp
    · rw [Nat.toDigits_of_base_le (by decide) (by omega)]
      simpa using ih (n / 16) (by omega)

theorem return_not_mem_literalChar (c : Char) (next : Option Char) : '\r' ∉ literalChar c next := by
  unfold literalChar
  split
  · split <;> decide
  all_goals try decide
  split
  · rename_i hreturn _ _ _
    simpa using fun h => hreturn h.symm
  · simp [return_not_mem_toDigits]

theorem return_not_mem_literal (text : String) : '\r' ∉ (literal text).toList := by
  have hbody : ∀ cs : List Char, '\r' ∉ literalBody cs := by
    intro cs
    induction cs with
    | nil => simp [literalBody]
    | cons c cs ih => simp [literalBody, return_not_mem_literalChar, ih]
  simp [literal, hbody]

theorem return_not_mem_of_isWord {cs : List Char} (h : isWord cs = true) : '\r' ∉ cs := by
  have hreturn : startsIdentifier '\r' = false ∧ Unicode.isContinue '\r' = false := by
    rw [startsIdentifier, isStart_ascii (by decide), isContinue_ascii (by decide)]
    decide
  cases cs with
  | nil => simp
  | cons c cs =>
    simp only [isWord, Bool.and_eq_true, List.all_eq_true] at h
    intro hmem
    rcases List.mem_cons.mp hmem with rfl | hmem
    · simp [hreturn.1] at h
    · simpa [hreturn.2] using h.2 _ hmem

theorem return_not_mem_of_isName {name : String} (h : isName name = true) :
    '\r' ∉ name.toList := by
  unfold isName at h
  split at h
  · rename_i cs hlist
    rw [hlist]
    simpa using return_not_mem_of_isWord (Bool.and_eq_true _ _ ▸ h).1
  · exact return_not_mem_of_isWord h

namespace Code

/-! ## Code without carriage returns -/

/-- Whether no text of some documents has a carriage return in it. -/
def Plain (docs : List Doc) : Prop := ∀ s ∈ textsOf docs, '\r' ∉ s.toList

@[simp] theorem plain_nil : Plain [] := by simp [Plain, textsOf]

@[simp] theorem plain_text (s : String) (docs : List Doc) :
    Plain (.text s :: docs) ↔ '\r' ∉ s.toList ∧ Plain docs := by
  simp [Plain, textsOf, Doc.texts]

@[simp] theorem plain_gap (g : Gap) (docs : List Doc) :
    Plain (.gap g :: docs) ↔ '\r' ∉ g.atBreak.toList ∧ Plain docs := by
  simp [Plain, textsOf, Doc.texts]

@[simp] theorem plain_box (style : Style) (indent : Int) (limit : Option Nat)
    (content docs : List Doc) :
    Plain (.box style indent limit content :: docs) ↔ Plain content ∧ Plain docs := by
  simp only [Plain, textsOf, Doc.texts, List.forall_mem_append]

@[simp] theorem plain_append (front back : List Doc) :
    Plain (front ++ back) ↔ Plain front ∧ Plain back := by
  simp only [Plain, textsOf_append, List.forall_mem_append]

theorem plain_flatten (parts : List (List Doc)) :
    Plain parts.flatten ↔ ∀ part ∈ parts, Plain part := by
  induction parts with
  | nil => simp
  | cons part parts ih => simp [ih]

@[simp] theorem plain_word (s : String) : Plain (word s) ↔ '\r' ∉ s.toList := by simp [word]

@[simp] theorem plain_cbox (indent : Int) (content : List Doc) :
    Plain (cbox indent content) ↔ Plain content := by simp [cbox]

@[simp] theorem plain_ibox (indent : Int) (content : List Doc) :
    Plain (ibox indent content) ↔ Plain content := by simp [ibox]

theorem plain_intercalate {separator : List Doc} {items : List (List Doc)}
    (hseparator : Plain separator) (hitems : ∀ item ∈ items, Plain item) :
    Plain (separator.intercalate items) := by
  induction items with
  | nil => simp
  | cons item rest ih =>
    obtain ⟨hitem, hrest⟩ := List.forall_mem_cons.mp hitems
    cases rest with
    | nil => simpa using hitem
    | cons next rest =>
      rw [List.intercalate_cons_cons, plain_append, plain_append]
      exact ⟨⟨hitem, hseparator⟩, ih hrest⟩

theorem plain_separated {items : List (List Doc)} (h : ∀ item ∈ items, Plain item) :
    Plain (separated items) := plain_intercalate (by simp [blank]) h

theorem plain_listing {indent : Int} {items : List (List Doc)} (h : ∀ item ∈ items, Plain item) :
    Plain (listing indent items) := by
  unfold listing
  split
  · exact plain_nil
  · simp [cut, plain_separated h]

theorem plain_inParens {items : List (List Doc)} (h : ∀ item ∈ items, Plain item) :
    Plain (inParens items) := by simp [inParens, plain_listing h]

theorem plain_inAngles {items : List (List Doc)} (h : ∀ item ∈ items, Plain item) :
    Plain (inAngles items) := by simp [inAngles, plain_listing h]

theorem plain_lineBlock {entries : List (List Doc)} (h : ∀ entry ∈ entries, Plain entry) :
    Plain (lineBlock entries) := by
  have hends : Plain (if entries.isEmpty then [] else [blockEnd]) := by
    split <;> simp [blockEnd]
  rw [lineBlock, plain_append]
  exact ⟨plain_intercalate (by simp [lineEnd]) h, hends⟩

@[simp] theorem plain_life : Plain life := by simp [life]

@[simp] theorem plain_lifeParameter : Plain lifeParameter := by
  simp [lifeParameter, plain_listing]

@[simp] theorem plain_borrowing (name : String) : Plain (borrowing name) ↔ '\r' ∉ name.toList := by
  simp [borrowing, plain_inAngles]

theorem plain_chain {head : List Doc} {links : List (List Doc)} (hhead : Plain head)
    (hlinks : ∀ l ∈ links, Plain l) : Plain (chain head links) := by
  simpa [chain, plain_flatten] using And.intro hhead hlinks

@[simp] theorem plain_link (name : String) : Plain (link name) ↔ '\r' ∉ name.toList := by
  simp [link, cut]

theorem plain_callLink {name : String} {arguments : List (List Doc)} (hname : '\r' ∉ name.toList)
    (harguments : ∀ argument ∈ arguments, Plain argument) : Plain (callLink name arguments) := by
  simp [callLink, hname, plain_inParens harguments]

@[simp] theorem plain_typed (name : String) (type : List Doc) :
    Plain (typed name type) ↔ '\r' ∉ name.toList ∧ Plain type := by
  simp [typed]

@[simp] theorem plain_connectionType : Plain connectionType := by simp [connectionType]

@[simp] theorem plain_argumentType (a : Argument) : Plain (argumentType a) := by
  have hrequired : Plain (argumentType { a with isOptional := false }) := by
    simp only [argumentType, Bool.false_eq_true, if_false]
    split
    · rw [plain_append]
      exact ⟨by simp, plain_inAngles (by simp)⟩
    · split <;> simp
  have hoption : argumentType a =
      if a.isOptional then word "Option" ++ inAngles [argumentType { a with isOptional := false }]
      else argumentType { a with isOptional := false } := rfl
  rw [hoption]
  split
  · rw [plain_append]
    exact ⟨by simp, plain_inAngles (by simpa using hrequired)⟩
  · exact hrequired

theorem plain_function {name : String} {parameters : List (List Doc)} {result : List Doc}
    {statements : List (List Doc)} (hname : '\r' ∉ name.toList)
    (hparameters : ∀ parameter ∈ parameters, Plain parameter) (hresult : Plain result)
    (hstatements : ∀ statement ∈ statements, Plain statement) :
    Plain (function [] name parameters result statements) := by
  simp [function, docComment, hname, plain_listing hparameters, hresult, lineEnd,
    plain_lineBlock hstatements]

@[simp] theorem plain_value (expression : List Doc) :
    Plain (value expression) ↔ Plain expression := by
  simp [value]

@[simp] theorem plain_statement (expression : List Doc) :
    Plain (statement expression) ↔ Plain expression := by
  simp [statement]

theorem plain_typedFields {t : ClientType} (hkeys : ∀ key ∈ t.keys, '\r' ∉ key.toList) :
    ∀ field ∈ typedFields t, Plain field := by
  rw [typedFields_eq]
  simpa using hkeys

theorem plain_constructor {t : ClientType} (hkeys : ∀ key ∈ t.keys, '\r' ∉ key.toList) :
    Plain (constructor t) := by
  have hfields : Plain (separated (t.fields.map word)) :=
    plain_separated (by simpa [ClientType.fields] using hkeys)
  refine plain_function (by simp) (plain_typedFields hkeys) (by simp) ?_
  simpa [record, blank] using hfields

@[simp] theorem plain_ownField (name : String) :
    Plain (ownField name) ↔ '\r' ∉ name.toList := by
  simp [ownField, chain, link, cut]

@[simp] theorem plain_ownCopy (name : String) : Plain (ownCopy name) ↔ '\r' ∉ name.toList := by
  have hclone : Plain (callLink "clone" []) := plain_callLink (by simp) (by simp)
  simp [ownCopy, chain, hclone]

@[simp] theorem plain_keyText (name : String) : Plain (keyText name) ↔ '\r' ∉ name.toList := by
  have hcall : Plain (callLink "to_string" []) := plain_callLink (by simp) (by simp)
  simp [keyText, chain, hcall]

theorem plain_accessor {a : Accessor} (hnames : ∀ name ∈ a.identifiers, '\r' ∉ name.toList) :
    Plain (accessor a.undocumented) := by
  simp only [Accessor.identifiers, List.cons_append, List.forall_mem_cons,
    List.forall_mem_append] at hnames
  obtain ⟨hname, htarget, hinherited, hkey⟩ := hnames
  have hkeys : ∀ item ∈ a.key?.toList.map fun k => typed k (word "impl ::std::fmt::Display"),
      Plain item := by simpa using hkey
  have hhanded : ∀ item ∈ ownField "client" :: a.inherited.map ownCopy ++
      a.key?.toList.map keyText, Plain item := by
    simp only [List.cons_append, List.forall_mem_cons, List.forall_mem_append, List.forall_mem_map,
      plain_ownField, plain_ownCopy, plain_keyText]
    exact ⟨by simp, hinherited, hkey⟩
  refine plain_function hname ?_ ((plain_borrowing _).mpr htarget) ?_
  · exact List.forall_mem_cons.mpr ⟨by simp, hkeys⟩
  · rw [List.forall_mem_singleton, plain_value, plain_append]
    exact ⟨by simpa [Accessor.undocumented] using htarget, plain_inParens hhanded⟩

theorem plain_path {p : PathTemplate} (hkeys : ∀ key ∈ p.keys, '\r' ∉ key.toList) :
    Plain (path p) := by
  unfold path
  split
  · simpa using return_not_mem_literal p.text
  · have hitems : Plain (separated (word (literal p.text) :: p.keys.map fun k =>
        word "encode_segment(&" ++ [blank] ++ word "self" ++ link k ++ word ")")) := by
      refine plain_separated (List.forall_mem_cons.mpr ⟨?_, ?_⟩)
      · simpa using return_not_mem_literal p.text
      · simpa [blank] using hkeys
    simpa [cut] using hitems

theorem plain_setField {a : Argument} (hname : '\r' ∉ a.name.toList) : Plain (setField a) := by
  have hgiven : Plain (if a.isFamily && !a.isOptional then word "Some" ++ inParens [word a.name]
      else word a.name) := by
    split
    · simpa using plain_inParens (by simpa using hname)
    · simpa using hname
  have hcall : Plain (callLink (if a.isFamily then "set_indexed" else "set")
      [word (literal a.wireName), if a.isFamily && !a.isOptional then
        word "Some" ++ inParens [word a.name] else word a.name]) := by
    refine plain_callLink ?_ ?_
    · split <;> simp
    · simp only [List.forall_mem_cons, plain_word]
      exact ⟨return_not_mem_literal a.wireName, hgiven, by simp⟩
  rw [setField, plain_statement]
  exact plain_chain (by simp) (by simpa using hcall)

theorem plain_operation {o : Operation} (hnames : ∀ name ∈ o.identifiers, '\r' ∉ name.toList) :
    Plain (operation o.undocumented) := by
  simp only [Operation.identifiers, List.cons_append, List.forall_mem_cons,
    List.forall_mem_append, List.forall_mem_map] at hnames
  obtain ⟨hname, hkeys, harguments⟩ := hnames
  have hrequest : Plain (callLink "execute" [word (verbName o.verb), path o.path,
      word "req_params"]) := by
    have hverb : '\r' ∉ (verbName o.verb).toList := by cases o.verb <;> decide
    exact plain_callLink (by simp) (by simpa using ⟨hverb, plain_path hkeys⟩)
  have hresult : Plain (inAngles [word (if o.returnsAnswer then "ApiResult" else "()"),
      word "ClientError"]) := plain_inAngles (by cases o.returnsAnswer <;> simp)
  have hnew : ∀ isChanged, Plain (newFields isChanged) := by
    intro isChanged
    cases isChanged <;> simp [newFields, plain_inParens]
  refine plain_function hname ?_ ((plain_append _ _).mpr ⟨by simp, hresult⟩) ?_
  · simpa [Operation.undocumented] using harguments
  · simp only [List.cons_append, List.forall_mem_cons, List.forall_mem_append,
      List.forall_mem_map, sending, request]
    refine ⟨hnew _, fun a ha => plain_setField (harguments a ha), ?_⟩
    split <;> simpa [Operation.undocumented] using hrequest

theorem plain_declaration {t : ClientType} (hname : '\r' ∉ t.name.toList)
    (hkeys : ∀ key ∈ t.keys, '\r' ∉ key.toList) : Plain (declaration t.undocumented) := by
  have hfields : Plain (lineBlock ((typedFields t).map (· ++ word ","))) :=
    plain_lineBlock (by simpa using plain_typedFields hkeys)
  have hsame : typedFields t.undocumented = typedFields t := rfl
  rw [declaration, hsame]
  simpa [ClientType.undocumented, docComment, blank, lineEnd] using And.intro hname hfields

theorem plain_implementation {t : ClientType}
    (hnames : ∀ name ∈ t.identifiers, '\r' ∉ name.toList) :
    Plain (implementation t.undocumented) := by
  simp only [ClientType.identifiers, List.cons_append, List.forall_mem_cons,
    List.forall_mem_append, List.forall_mem_flatMap] at hnames
  obtain ⟨hname, ⟨hkeys, haccessors⟩, hoperations⟩ := hnames
  have hfunctions : Plain (lineBlock (constructor t.undocumented ::
      t.undocumented.accessors.map accessor ++ t.undocumented.operations.map operation)) := by
    refine plain_lineBlock ?_
    simp only [List.cons_append, List.forall_mem_cons, List.forall_mem_append,
      List.forall_mem_map, ClientType.undocumented]
    exact ⟨plain_constructor hkeys, fun a ha => plain_accessor (haccessors a ha),
      fun o ho => plain_operation (hoperations o ho)⟩
  simpa [implementation, lineEnd] using ⟨hname, hfunctions⟩

theorem plain_importLine {runtime : ModulePath}
    (hsegments : ∀ segment ∈ runtime.segments, '\r' ∉ segment.toList) {names : List String}
    (hnames : ∀ name ∈ names, '\r' ∉ name.toList) : Plain (importLine runtime names) := by
  have hpath : '\r' ∉ ("use " ++ (if runtime.isAbsolute then "::" else "") ++
      String.join (runtime.segments.map (· ++ "::"))).toList := by
    have hmark : '\r' ∉ (if runtime.isAbsolute then "::" else "").toList := by
      cases runtime.isAbsolute <;> decide
    simpa [hmark, String.toList_join] using hsegments
  have hlist : Plain (separated (names.map word)) := plain_separated (by simpa using hnames)
  unfold importLine
  rw [plain_append, plain_append, plain_append, plain_word]
  refine ⟨⟨⟨hpath, ?_⟩, by simp⟩, by simp [lineEnd]⟩
  split
  · simpa using hnames
  · simpa [cut] using hlist

/-! ## Checked names -/

theorem isWord_of_takeWord? {cs word rest : List Char} (h : takeWord? cs = some (word, rest)) :
    isWord word = true := by
  cases cs with
  | nil => simp [takeWord?] at h
  | cons c cs =>
    simp only [takeWord?, List.span_eq_takeWhile_dropWhile] at h
    split at h
    · rename_i hc
      obtain ⟨rfl, -⟩ := Prod.mk.inj (Option.some.inj h)
      simp [isWord, hc, List.all_takeWhile]
    · simp at h

theorem return_not_mem_of_takeSegment? {cs rest : List Char} {segment : String}
    (h : takeSegment? cs = some (segment, rest)) : '\r' ∉ segment.toList := by
  unfold takeSegment? at h
  split at h
  all_goals
    obtain ⟨⟨word, behind⟩, hword, hsegment⟩ := Option.bind_eq_some_iff.mp h
    have hplain := return_not_mem_of_isWord (isWord_of_takeWord? hword)
    dsimp only at hsegment
    split at hsegment
    · simp at hsegment
    · obtain ⟨rfl, -⟩ := Prod.mk.inj (Option.some.inj hsegment)
      simpa using hplain

theorem return_not_mem_of_takeSegments? {fuel : Nat} {cs : List Char} {segments : List String}
    (h : takeSegments? fuel cs = some segments) :
    ∀ segment ∈ segments, '\r' ∉ segment.toList := by
  induction fuel generalizing cs segments with
  | zero => simp [takeSegments?] at h
  | succ fuel ih =>
    obtain ⟨⟨first, rest⟩, hfirst, h⟩ := Option.bind_eq_some_iff.mp h
    have hplain := return_not_mem_of_takeSegment? hfirst
    dsimp only at h
    split at h
    · obtain rfl := Option.some.inj h
      simpa using hplain
    · obtain ⟨more, hmore, rfl⟩ := Option.map_eq_some_iff.mp h
      exact List.forall_mem_cons.mpr ⟨hplain, ih hmore⟩
    · simp at h

theorem return_not_mem_of_ofText? {path : String} {runtime : ModulePath}
    (h : ModulePath.ofText? path = some runtime) :
    ∀ segment ∈ runtime.segments, '\r' ∉ segment.toList := by
  simp only [ModulePath.ofText?] at h
  split at h
  all_goals
    obtain ⟨segments, hsegments, rfl⟩ := Option.map_eq_some_iff.mp h
    exact return_not_mem_of_takeSegments? hsegments

theorem checkNames_ok {m : ClientModule} {runtime : ModulePath} (h : checkNames m = .ok runtime) :
    (∀ t ∈ m.types, isName t.name = true) ∧ ModulePath.ofText? m.runtimePath = some runtime := by
  unfold checkNames at h
  split at h
  · simp at h
  · rename_i hnames
    split at h
    · simp at h
    · rename_i runtime' hruntime
      split at h
      · simp at h
      · obtain rfl := Except.ok.inj h
        exact ⟨by simpa using hnames, hruntime⟩

/-! ## The code of a client -/

theorem return_not_mem_text {runtime : ModulePath} {m : ClientModule}
    (hsegments : ∀ segment ∈ runtime.segments, '\r' ∉ segment.toList)
    (hnames : ∀ name ∈ m.identifiers, '\r' ∉ name.toList) :
    '\r' ∉ (text runtime m.undocumented).toList := by
  rw [ClientModule.identifiers, List.forall_mem_append, List.forall_mem_flatMap] at hnames
  obtain ⟨himports, htypes⟩ := hnames
  have hplain : Plain (cbox 0 (importLine runtime m.undocumented.imports ++
      m.undocumented.types.flatMap fun t => declaration t ++ implementation t)) := by
    rw [plain_cbox, plain_append, m.imports_undocumented]
    refine ⟨plain_importLine hsegments himports, ?_⟩
    simp only [ClientModule.undocumented, List.flatMap_def, plain_flatten, List.map_map,
      List.forall_mem_map, Function.comp_apply, plain_append]
    intro t ht
    have hnames := htypes t ht
    simp only [ClientType.identifiers, List.cons_append, List.forall_mem_cons,
      List.forall_mem_append] at hnames
    exact ⟨plain_declaration hnames.1 hnames.2.1.1, plain_implementation (htypes t ht)⟩
  have hall := forall_mem_render (P := (· ≠ '\r')) (by decide) (by decide) _ fun s hs c hc =>
    fun hreturn => hplain s hs (hreturn ▸ hc)
  exact fun hmem => hall _ hmem rfl

end Code

/-- The code of a built catalog without documentation has no carriage return in it. -/
theorem return_not_mem_undocumented {document : Json} {c : Catalog}
    (h : Catalog.build document = .ok c) {s : Settings} {runtime : ModulePath}
    (hruntime : checkNames (assemble c s) = .ok runtime) :
    '\r' ∉ (Code.text runtime (assemble c s).undocumented).toList := by
  obtain ⟨htypes, hpath⟩ := Code.checkNames_ok hruntime
  refine Code.return_not_mem_text (Code.return_not_mem_of_ofText? hpath) ?_
  refine forall_mem_identifiers (fun name hname => return_not_mem_of_isWord hname.isWord) h s ?_
  intro id hid
  refine return_not_mem_of_isName (htypes (clientType c s id) ?_)
  exact (mem_types h s).mpr ⟨id, hid, rfl⟩

end ApiAtlas.Client
