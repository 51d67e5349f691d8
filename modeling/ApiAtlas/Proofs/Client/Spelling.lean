import ApiAtlas.Client.Filling
import ApiAtlas.Client.Sending
import ApiAtlas.Proofs.Layout.Spelling
import Mathlib.Data.List.Forall2

/-!
# The spelling of code

How each part of a client is spelled: the signatures of its functions, their statements, and the
declarations of its types.
-/

namespace ApiAtlas.Client

open Layout Lexical

/-- Lines, each with its end. -/
def withEnds (lines : List String) : String := String.join (lines.map (· ++ "\n"))

theorem withEnds_cons (line : String) (rest : List String) :
    withEnds (line :: rest) = line ++ "\n" ++ withEnds rest := String.join_cons

theorem intercalate_lineEnd (line : String) (rest : List String) :
    "\n".intercalate (line :: rest) ++ "\n" = withEnds (line :: rest) := by
  induction rest generalizing line with
  | nil => simp [withEnds]
  | cons next rest ih =>
    rw [String.intercalate_cons_cons, String.append_assoc, ih, withEnds_cons line]

/-- Documentation, a line each; there are no blanks at the ends of its lines. -/
def docSpelling (doc : List String) : String :=
  withEnds (doc.map fun line => "///" ++ String.ofList (Text.dropEndWhile (· == ' ') line.toList))

namespace Code

/-! ## Building blocks -/

@[simp] theorem spellingOf_word (s : String) : spellingOf (word s) = s := String.append_empty

@[simp] theorem spellingOf_cbox (indent : Int) (content : List Doc) :
    spellingOf (cbox indent content) = spellingOf content := String.append_empty

@[simp] theorem spellingOf_ibox (indent : Int) (content : List Doc) :
    spellingOf (ibox indent content) = spellingOf content := String.append_empty

@[simp] theorem spellingOf_separated (items : List (List Doc)) :
    spellingOf (separated items) = ",".intercalate (items.map spellingOf) :=
  spellingOf_intercalate [.text ",", blank] items

@[simp] theorem spellingOf_listing (indent : Int) (items : List (List Doc)) :
    spellingOf (listing indent items) = ",".intercalate (items.map spellingOf) := by
  cases items with
  | nil => rfl
  | cons item rest => simp [listing, cut, tooWide]

@[simp] theorem spellingOf_inParens (items : List (List Doc)) :
    spellingOf (inParens items) = "(" ++ ",".intercalate (items.map spellingOf) ++ ")" := by
  simp [inParens, String.append_assoc]

@[simp] theorem spellingOf_inAngles (items : List (List Doc)) :
    spellingOf (inAngles items) = "<" ++ ",".intercalate (items.map spellingOf) ++ ">" := by
  simp [inAngles, String.append_assoc]

@[simp] theorem spellingOf_lifeParameter : spellingOf lifeParameter = "<'a>" := by
  simp [lifeParameter, life]

@[simp] theorem spellingOf_borrowing (name : String) :
    spellingOf (borrowing name) = name ++ "<'a>" := by
  simp [borrowing, life]

@[simp] theorem spellingOf_connectionType : spellingOf connectionType = "&'a Client" := by
  simp [connectionType, life]

@[simp] theorem spellingOf_typed (name : String) (type : List Doc) :
    spellingOf (typed name type) = name ++ ": " ++ spellingOf type := by
  simp [typed]

@[simp] theorem spellingOf_lineBlock (entries : List (List Doc)) :
    spellingOf (lineBlock entries) = withEnds (entries.map spellingOf) := by
  cases entries with
  | nil => rfl
  | cons entry rest =>
    have hends : spellingOf [lineEnd] = "\n" := by decide
    have hlast : spellingOf [blockEnd] = "\n" := by decide
    rw [lineBlock, spellingOf_append, spellingOf_intercalate, hends, List.isEmpty_cons,
      if_neg (by decide), hlast]
    exact intercalate_lineEnd _ _

@[simp] theorem spellingOf_link (name : String) : spellingOf (link name) = "." ++ name := by
  simp [link, cut, tooWide]

@[simp] theorem spellingOf_callLink (name : String) (arguments : List (List Doc)) :
    spellingOf (callLink name arguments) =
      "." ++ name ++ "(" ++ ",".intercalate (arguments.map spellingOf) ++ ")" := by
  simp [callLink, String.append_assoc]

@[simp] theorem spellingOf_chain (head : List Doc) (links : List (List Doc)) :
    spellingOf (chain head links) = spellingOf head ++ String.join (links.map spellingOf) := by
  simp [chain]

@[simp] theorem spellingOf_value (expression : List Doc) :
    spellingOf (value expression) = spellingOf expression := spellingOf_ibox 0 expression

@[simp] theorem spellingOf_statement (expression : List Doc) :
    spellingOf (statement expression) = spellingOf expression ++ ";" := by
  simp [statement]

theorem spellingOf_docComment (doc : List String) :
    spellingOf (docComment doc) = docSpelling doc := by
  induction doc with
  | nil => rfl
  | cons line rest ih =>
    rw [docComment] at ih
    rw [docSpelling, List.map_cons, withEnds_cons, ← docSpelling, ← ih, docComment,
      List.flatMap_cons, spellingOf_append]
    simp [lineEnd]

theorem spellingOf_function (doc : List String) (name : String) (parameters : List (List Doc))
    (result : List Doc) (statements : List (List Doc)) :
    spellingOf (function doc name parameters result statements) =
      docSpelling doc ++ "pub fn " ++ name ++ "(" ++
        ",".intercalate (parameters.map spellingOf) ++ ") -> " ++ spellingOf result ++ " \x7b\n" ++
        withEnds (statements.map spellingOf) ++ "\x7d" := by
  apply String.toList_inj.mp
  simp [function, lineEnd, tooWide, spellingOf_docComment]

end Code

/-! ## Expressions and statements -/

def ArgumentType.spelling : ArgumentType → String
  | bool => "bool"
  | int => "i64"
  | text => "&str"
  | numbered => "&::std::collections::BTreeMap<u32,String>"
  | option type => "Option<" ++ type.spelling ++ ">"

theorem ArgumentType.spellingOf_code (type : ArgumentType) : spellingOf type.code = type.spelling := by
  induction type with
  | option type ih =>
    apply String.toList_inj.mp
    simp [code, ih, spelling]
  | numbered => decide
  | _ => exact Code.spellingOf_word _

theorem spellingOf_argumentType (a : Argument) :
    spellingOf (Code.argumentType a) = a.type.spelling := by
  rw [← a.code_type, ArgumentType.spellingOf_code]

theorem Argument.isOptional_iff_spelling (a : Argument) :
    a.isOptional = true ↔ ∃ inner, a.type.spelling = "Option<" ++ inner ++ ">" := by
  have hplain : a.innerType.spelling.toList.head? ≠ some 'O' := by
    unfold Argument.innerType
    cases a.isFamily <;> cases a.valueType <;> decide
  unfold Argument.type
  cases a.isOptional with
  | true => exact iff_of_true rfl ⟨a.innerType.spelling, rfl⟩
  | false =>
    refine iff_of_false (by decide) ?_
    rintro ⟨inner, hinner⟩
    rw [if_neg (by decide)] at hinner
    rw [hinner, String.append_assoc, String.toList_append] at hplain
    exact hplain rfl

def Expression.spelling : Expression → String
  | name argument => argument
  | some expression => "Some(" ++ expression.spelling ++ ")"

theorem Expression.spellingOf_code (e : Expression) : spellingOf e.code = e.spelling := by
  induction e with
  | name argument => exact Code.spellingOf_word argument
  | some expression ih =>
    apply String.toList_inj.mp
    simp [code, ih, spelling]

namespace FieldStatement

def callSpelling (function wireName : String) (expression : Expression) : String :=
  "req_params." ++ function ++ "(" ++ literal wireName ++ "," ++ expression.spelling ++ ");"

def spelling : FieldStatement → String
  | set wireName expression => callSpelling "set" wireName expression
  | setIndexed wireName expression => callSpelling "set_indexed" wireName expression

theorem spellingOf_callCode (function wireName : String) (expression : Expression) :
    spellingOf (callCode function wireName expression) =
      callSpelling function wireName expression := by
  apply String.toList_inj.mp
  simp [callCode, callSpelling, fieldsVariable, Expression.spellingOf_code]

theorem spellingOf_code (s : FieldStatement) : spellingOf s.code = s.spelling := by
  cases s with
  | set wireName expression => exact spellingOf_callCode ..
  | setIndexed wireName expression => exact spellingOf_callCode ..

end FieldStatement

namespace PathExpression

def formatSpelling (text : String) (keys : List String) : String :=
  "&format!(" ++ ",".intercalate (Lexical.literal text ::
    keys.map fun key => "encode_segment(&self." ++ key ++ ")") ++ ")"

def spelling : PathExpression → String
  | literal text => Lexical.literal text
  | format text keys => formatSpelling text keys

end PathExpression

theorem PathExpression.spellingOf_code (e : PathExpression) : spellingOf e.code = e.spelling := by
  cases e with
  | literal text => exact Code.spellingOf_word _
  | format text keys =>
    have hvalue : ∀ key : String, "encode_segment(&" ++ ("self" ++ ("." ++ (key ++ ")"))) =
        "encode_segment(&self." ++ (key ++ ")") := fun _ => rfl
    change _ = formatSpelling text keys
    simp [code, formatSpelling, Code.cut, Code.blank, tooWide, Function.comp_def,
      String.append_assoc, hvalue]

theorem PathTemplate.spellingOf_path (t : PathTemplate) :
    spellingOf (Code.path t) = t.expression.spelling := by
  rw [← t.code_expression, PathExpression.spellingOf_code]

/-! ## Functions -/

/-- Whether a text is a function of a name. -/
def IsFunction (name text : String) : Prop :=
  ∃ doc rest, text = docSpelling doc ++ "pub fn " ++ name ++ "(" ++ rest

namespace Operation

/-- The call that sends the request of an operation. -/
def callSpelling (o : Operation) : String :=
  "self.client.execute(" ++ Code.verbName o.verb ++ "," ++ o.path.expression.spelling ++
    ",req_params)"

/-- The statements of the function of an operation, each on a line of its own. -/
def bodySpelling (o : Operation) : List String :=
  (if o.arguments.isEmpty then "let req_params = Params::new();"
    else "let mut req_params = Params::new();") :: o.statements.map FieldStatement.spelling ++
  if o.returnsAnswer then [o.callSpelling] else [o.callSpelling ++ "?;", "Ok(())"]

theorem spellingOf_request (o : Operation) : spellingOf (Code.request o) = o.callSpelling := by
  change _ = "self.client.execute(" ++ Code.verbName o.verb ++ "," ++
    o.path.expression.spelling ++ ",req_params)"
  apply String.toList_inj.mp
  simp [Code.request, PathTemplate.spellingOf_path]

theorem spellingOf_newFields (o : Operation) :
    spellingOf (Code.newFields (!o.arguments.isEmpty)) =
      if o.arguments.isEmpty then "let req_params = Params::new();"
        else "let mut req_params = Params::new();" := by
  cases o.arguments.isEmpty <;> decide

theorem code_statements (o : Operation) :
    o.statements.map FieldStatement.code = o.arguments.map Code.setField := by
  rw [statements, List.map_map]
  exact List.map_congr_left fun a _ => a.code_statement

theorem map_spellingOf_body (o : Operation) :
    (Code.newFields (!o.arguments.isEmpty) :: o.arguments.map Code.setField ++
      Code.sending o).map spellingOf = o.bodySpelling := by
  have hstatements : (o.arguments.map Code.setField).map spellingOf =
      o.statements.map FieldStatement.spelling := by
    rw [← o.code_statements, List.map_map]
    exact List.map_congr_left fun s _ => s.spellingOf_code
  have hsending : (Code.sending o).map spellingOf =
      if o.returnsAnswer then [o.callSpelling] else [o.callSpelling ++ "?;", "Ok(())"] := by
    unfold Code.sending
    cases o.returnsAnswer <;> simp [spellingOf_request, String.append_assoc]
  rw [List.cons_append, List.map_cons, List.map_append, hstatements, hsending,
    spellingOf_newFields]
  rfl

theorem map_spellingOf_parameters (o : Operation) :
    (Code.word "&self" :: o.arguments.map fun a =>
      Code.typed a.name (Code.argumentType a)).map spellingOf =
        "&self" :: o.arguments.map fun a => a.name ++ ": " ++ a.type.spelling := by
  simp [Function.comp_def, spellingOf_argumentType]

/-- The function of an operation: its name, its arguments with their types, and its statements. -/
def spelling (o : Operation) : String :=
  docSpelling o.doc ++ "pub fn " ++ o.name ++ "(" ++
    ",".intercalate ("&self" :: o.arguments.map fun a => a.name ++ ": " ++ a.type.spelling) ++
    ") -> Result<" ++ (if o.returnsAnswer then "ApiResult" else "()") ++ ",ClientError> \x7b\n" ++
    withEnds o.bodySpelling ++ "\x7d"

theorem spellingOf_operation (o : Operation) : spellingOf (Code.operation o) = o.spelling := by
  have hresult : ∀ answer : String, spellingOf (Code.word "Result" ++
      Code.inAngles [Code.word answer, Code.word "ClientError"]) =
        "Result<" ++ answer ++ ",ClientError>" := by
    intro answer
    apply String.toList_inj.mp
    simp
  rw [Code.operation, Code.spellingOf_function, map_spellingOf_body, map_spellingOf_parameters,
    hresult, spelling]
  apply String.toList_inj.mp
  simp

/-- The arguments of an operation stand behind the value at hand, with their names and types. -/
theorem exists_signature (o : Operation) :
    ∃ rest, spellingOf (Code.operation o) =
      docSpelling o.doc ++ "pub fn " ++ o.name ++ "(" ++
        ",".intercalate ("&self" :: o.arguments.map fun a => a.name ++ ": " ++ a.type.spelling) ++
        ") -> " ++ rest := by
  have hcut : ") -> Result<" = ") -> " ++ "Result<" := by decide
  simp only [spellingOf_operation, spelling, hcut, String.append_assoc]
  exact ⟨_, rfl⟩

end Operation

/-! ## Types -/

namespace ClientType

/-- The fields with their types: the connection, and then a text for each key. -/
def fieldSpellings (t : ClientType) : List String :=
  t.fields.zipWith (fun name type => name ++ ": " ++ type)
    ("&'a Client" :: t.keys.map fun _ => "String")

theorem map_spellingOf_typedFields (t : ClientType) :
    (Code.typedFields t).map spellingOf = t.fieldSpellings := by
  rw [Code.typedFields_eq, fieldSpellings, fields, List.zipWith_cons_cons, List.zipWith_map_right,
    List.zipWith_self, List.map_cons, List.map_map]
  simp [Function.comp_def]

theorem spellingOf_constructor (t : ClientType) :
    spellingOf (Code.constructor t) =
      "pub fn new(" ++ ",".intercalate t.fieldSpellings ++ ") -> Self \x7b\nSelf \x7b" ++
        ",".intercalate t.fields ++ "\x7d\n\x7d" := by
  rw [Code.constructor, Code.spellingOf_function, map_spellingOf_typedFields]
  apply String.toList_inj.mp
  simp [docSpelling, withEnds, Code.record, Code.blank, tooWide, Function.comp_def]

theorem spellingOf_declaration (t : ClientType) :
    spellingOf (Code.declaration t) =
      docSpelling t.doc ++ "#[derive(Clone)]pub struct " ++ t.name ++ "<'a> \x7b\n" ++
        withEnds (t.fieldSpellings.map (· ++ ",")) ++ "\x7d\n" := by
  have hfields : ((Code.typedFields t).map (· ++ Code.word ",")).map spellingOf =
      t.fieldSpellings.map (· ++ ",") := by
    rw [← map_spellingOf_typedFields, List.map_map, List.map_map]
    simp [Function.comp_def]
  apply String.toList_inj.mp
  simp [Code.declaration, Code.spellingOf_docComment, Code.blank, Code.lineEnd, tooWide, hfields]

/-- All functions of a type: the one that makes its values, the accessors and the operations. -/
theorem spellingOf_implementation (t : ClientType) :
    spellingOf (Code.implementation t) =
      "impl<'a> " ++ t.name ++ "<'a> \x7b\n" ++
        withEnds ((Code.constructor t :: t.accessors.map Code.accessor ++
          t.operations.map Code.operation).map spellingOf) ++ "\x7d\n" := by
  apply String.toList_inj.mp
  simp [Code.implementation, Code.lineEnd, tooWide]

theorem isFunction_function (doc : List String) (name : String) (parameters : List (List Doc))
    (result : List Doc) (statements : List (List Doc)) :
    IsFunction name (spellingOf (Code.function doc name parameters result statements)) := by
  simp only [IsFunction, Code.spellingOf_function, String.append_assoc]
  exact ⟨doc, _, rfl⟩

theorem forall₂_isFunction (t : ClientType) :
    List.Forall₂ IsFunction ("new" :: t.functionNames)
      ((Code.constructor t :: t.accessors.map Code.accessor ++
        t.operations.map Code.operation).map spellingOf) := by
  have haccessors : List.Forall₂ IsFunction (t.accessors.map (·.name))
      ((t.accessors.map Code.accessor).map spellingOf) := by
    simp only [List.forall₂_map_left_iff, List.forall₂_map_right_iff, List.forall₂_same]
    exact fun a _ => isFunction_function ..
  have hoperations : List.Forall₂ IsFunction (t.operations.map (·.name))
      ((t.operations.map Code.operation).map spellingOf) := by
    simp only [List.forall₂_map_left_iff, List.forall₂_map_right_iff, List.forall₂_same]
    exact fun o _ => isFunction_function ..
  rw [List.map_append, List.map_cons]
  exact .cons (isFunction_function ..) (List.rel_append haccessors hoperations)

/-- The functions of a type are the one that makes its values and those of its function names. -/
theorem exists_functions (t : ClientType) :
    ∃ functions, List.Forall₂ IsFunction ("new" :: t.functionNames) functions ∧
      spellingOf (Code.implementation t) =
        "impl<'a> " ++ t.name ++ "<'a> \x7b\n" ++ withEnds functions ++ "\x7d\n" :=
  ⟨_, t.forall₂_isFunction, t.spellingOf_implementation⟩

end ClientType

/-- The import lists its names behind the path of their module. -/
theorem Code.spellingOf_importLine (runtime : ModulePath) (names : List String) :
    spellingOf (Code.importLine runtime names) =
      "use " ++ (if runtime.isAbsolute then "::" else "") ++
        String.join (runtime.segments.map (· ++ "::")) ++
        (if names.length = 1 then ",".intercalate names
          else "\x7b" ++ ",".intercalate names ++ "\x7d") ++ ";\n" := by
  apply String.toList_inj.mp
  cases names with
  | nil => simp [importLine, cut, lineEnd, tooWide]
  | cons first rest =>
    cases rest with
    | nil => simp [importLine, lineEnd, tooWide]
    | cons second rest => simp [importLine, cut, lineEnd, tooWide, Function.comp_def]

/-! ## The text of the code -/

namespace Code

variable {items : List (List Doc)}

@[simp] theorem allBare_word (s : String) : AllBare (word s) := ⟨trivial, trivial⟩

@[simp] theorem allBare_cbox (indent : Int) {content : List Doc} :
    AllBare (cbox indent content) ↔ AllBare content := and_iff_left trivial

@[simp] theorem allBare_ibox (indent : Int) {content : List Doc} :
    AllBare (ibox indent content) ↔ AllBare content := and_iff_left trivial

@[simp] theorem allBare_separated :
    AllBare (separated items) ↔ ∀ item ∈ items, AllBare item :=
  allBare_intercalate (by simp [blank])

@[simp] theorem allBare_listing (indent : Int) :
    AllBare (listing indent items) ↔ ∀ item ∈ items, AllBare item := by
  cases items with
  | nil => simp [listing]
  | cons item rest => simp [listing, cut]

@[simp] theorem allBare_inParens : AllBare (inParens items) ↔ ∀ item ∈ items, AllBare item := by
  simp [inParens]

@[simp] theorem allBare_inAngles : AllBare (inAngles items) ↔ ∀ item ∈ items, AllBare item := by
  simp [inAngles]

@[simp] theorem allBare_lineBlock : AllBare (lineBlock items) ↔ ∀ item ∈ items, AllBare item := by
  have hlines : AllBare ([lineEnd].intercalate items) ↔ ∀ item ∈ items, AllBare item :=
    allBare_intercalate (by simp [lineEnd])
  unfold lineBlock
  split <;> simp [hlines, blockEnd]

@[simp] theorem allBare_link (name : String) : AllBare (link name) := by
  simp [link, cut]

@[simp] theorem allBare_callLink (name : String) :
    AllBare (callLink name items) ↔ ∀ item ∈ items, AllBare item := by
  simp [callLink]

@[simp] theorem allBare_chain {head : List Doc} :
    AllBare (chain head items) ↔ AllBare head ∧ ∀ item ∈ items, AllBare item := by
  simp [chain]

@[simp] theorem allBare_typed (name : String) {type : List Doc} :
    AllBare (typed name type) ↔ AllBare type := by
  simp [typed]

@[simp] theorem allBare_value {expression : List Doc} :
    AllBare (value expression) ↔ AllBare expression := and_iff_left trivial

@[simp] theorem allBare_statement {expression : List Doc} :
    AllBare (statement expression) ↔ AllBare expression := by
  simp [statement]

@[simp] theorem allBare_connectionType : AllBare connectionType := by
  simp [connectionType, life]

@[simp] theorem allBare_borrowing (name : String) : AllBare (borrowing name) := by
  simp [borrowing, life]

@[simp] theorem allBare_docComment (doc : List String) : AllBare (docComment doc) := by
  simp [docComment, lineEnd]

@[simp] theorem allBare_function {doc : List String} {name : String} {result : List Doc}
    {statements : List (List Doc)} :
    AllBare (function doc name items result statements) ↔ (∀ item ∈ items, AllBare item) ∧
      AllBare result ∧ ∀ s ∈ statements, AllBare s := by
  simp [function, lineEnd]

@[simp] theorem allBare_argumentType (a : Argument) : AllBare (argumentType a) := by
  unfold argumentType
  cases a.isFamily <;> cases a.isOptional <;> cases a.valueType <;> simp

theorem allBare_constructor (t : ClientType) : AllBare (constructor t) := by
  simp [constructor, typedFields_eq, record, blank]

theorem allBare_accessor (a : Accessor) : AllBare (accessor a) := by
  simp [accessor, ownField, ownCopy, keyText, or_imp, forall_and]

theorem allBare_path (p : PathTemplate) : AllBare (path p) := by
  unfold path
  split <;> simp [cut, blank]

theorem allBare_setField (a : Argument) : AllBare (setField a) := by
  unfold setField
  cases a.isFamily <;> cases a.isOptional <;> simp

theorem allBare_operation (o : Operation) : AllBare (operation o) := by
  have hrequest : AllBare (request o) := by
    simp [request, allBare_path]
  have hsending : ∀ s ∈ sending o, AllBare s := by
    unfold sending
    cases o.returnsAnswer <;> simp [hrequest]
  have hbody : ∀ s ∈ newFields (!o.arguments.isEmpty) :: o.arguments.map setField ++ sending o,
      AllBare s := by
    rintro s (_ | ⟨_, hs⟩)
    · simp [newFields]
    · obtain hs | hs := List.mem_append.mp hs
      · obtain ⟨a, -, rfl⟩ := List.mem_map.mp hs
        exact allBare_setField a
      · exact hsending s hs
  rw [operation, allBare_function]
  refine ⟨by simp [or_imp, forall_and], by simp, hbody⟩

theorem allBare_type (t : ClientType) : AllBare (declaration t ++ implementation t) := by
  simp [declaration, implementation, lineEnd, blank, lifeParameter, life, typedFields_eq,
    allBare_constructor, allBare_accessor, allBare_operation, or_imp, forall_and]

theorem allBare_importLine (runtime : ModulePath) (names : List String) :
    AllBare (importLine runtime names) := by
  cases names with
  | nil => simp [importLine, cut, lineEnd]
  | cons first rest => cases rest <;> simp [importLine, cut, lineEnd]

/-- The text of a client is its spelling, apart from what its layout adds. -/
theorem essence_text (runtime : ModulePath) (m : ClientModule) :
    essence (text runtime m) = essence (spellingOf (importLine runtime m.imports)) ++
      m.types.flatMap fun t =>
        essence (spellingOf (declaration t)) ++ essence (spellingOf (implementation t)) := by
  have htypes : ∀ types : List ClientType,
      essence (spellingOf (types.flatMap fun t => declaration t ++ implementation t)) =
        types.flatMap fun t =>
          essence (spellingOf (declaration t)) ++ essence (spellingOf (implementation t)) := by
    intro types
    induction types with
    | nil => rfl
    | cons t rest ih =>
      rw [List.flatMap_cons, List.flatMap_cons, spellingOf_append, spellingOf_append,
        essence_append, essence_append, ih]
  have hbare : AllBare (importLine runtime m.imports ++
      m.types.flatMap fun t => declaration t ++ implementation t) :=
    allBare_append.mpr ⟨allBare_importLine runtime m.imports,
      allBare_flatMap.mpr fun t _ => allBare_type t⟩
  rw [text, essence_render ((allBare_cbox 0).mpr hbare), spellingOf_cbox, spellingOf_append,
    essence_append, htypes]

end Code

end ApiAtlas.Client
