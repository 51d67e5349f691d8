import ApiAtlas.Client.Model
import ApiAtlas.Layout.Doc
import ApiAtlas.Lexical.Literal
import ApiAtlas.Lexical.ModulePath
import ApiAtlas.Text.Blank

/-!
# The code of a client

Each part of a client as a document of the line breaker. A broken list has one item a line and a
comma behind the last; a chain of calls is broken before its points.
-/

namespace ApiAtlas.Client

open Descriptor Layout Lexical

namespace Code

def word (s : String) : List Doc := [.text s]

/-- A gap without blanks. -/
def cut : Doc := .gap {}

/-- A gap of one blank. -/
def blank : Doc := .gap { blank := 1 }

/-- A gap that is always broken. -/
def lineEnd : Doc := .gap { blank := tooWide }

/-- The last such gap before the end of an indented block. -/
def blockEnd : Doc := .gap { blank := tooWide, offset := -4 }

/-- A box whose gaps are broken all together. -/
def cbox (indent : Int) (content : List Doc) : List Doc := [.box .consistent indent none content]

/-- A box whose gaps are broken one by one. -/
def ibox (indent : Int) (content : List Doc) : List Doc := [.box .inconsistent indent none content]

def separated (items : List (List Doc)) : List Doc := [.text ",", blank].intercalate items

/-- A list of items; nothing if there are none. -/
def listing (indent : Int) (items : List (List Doc)) : List Doc :=
  if items.isEmpty then []
  else cbox indent (cut :: separated items ++ [.gap { offset := -4, atBreak := "," }])

def inParens (items : List (List Doc)) : List Doc := word "(" ++ listing 4 items ++ word ")"

def inAngles (items : List (List Doc)) : List Doc := word "<" ++ listing 4 items ++ word ">"

def life : List Doc := word "'a"

/-- The parameter of a type declaration. -/
def lifeParameter : List Doc := word "<" ++ listing 0 [life] ++ word ">"

/-- A type that borrows the connection. -/
def borrowing (name : String) : List Doc := word name ++ inAngles [life]

def docComment (lines : List String) : List Doc :=
  lines.flatMap fun line =>
    [.text ("///" ++ String.ofList (Text.dropEndWhile (· == ' ') line.toList)), lineEnd]

/-- Entries with a line each, up to the end of their block. -/
def lineBlock (entries : List (List Doc)) : List Doc :=
  [lineEnd].intercalate entries ++ if entries.isEmpty then [] else [blockEnd]

/-- A call on a chain of names, broken before its points. -/
def chain (head : List Doc) (links : List (List Doc)) : List Doc :=
  cbox 4 (cbox (-4) head ++ links.flatten)

def link (name : String) : List Doc := [cut, .text ".", .text name]

def callLink (name : String) (arguments : List (List Doc)) : List Doc :=
  link name ++ cbox 0 (inParens arguments)

def argumentType (a : Argument) : List Doc :=
  let plain := if a.isFamily then
      word "&::std::collections::BTreeMap" ++ inAngles [word "u32", word "String"]
    else
      match a.valueType with
      | .bool => word "bool"
      | .int => word "i64"
      | .string => word "&str"
  if a.isOptional then word "Option" ++ inAngles [plain] else plain

def typed (name : String) (type : List Doc) : List Doc := word (name ++ ": ") ++ type

def connectionType : List Doc := word "&" ++ life ++ word " Client"

def function (doc : List String) (name : String) (parameters : List (List Doc))
    (result : List Doc) (statements : List (List Doc)) : List Doc :=
  docComment doc ++
    cbox 4 (word ("pub fn " ++ name ++ "(") ++ [.gap { isFixed := true }] ++
      listing 0 parameters ++ word ")" ++ cbox (-4) (word " -> " ++ result) ++ word " \x7b" ++
      [lineEnd] ++ lineBlock statements ++ word "\x7d")

def value (expression : List Doc) : List Doc := ibox 0 expression

def statement (expression : List Doc) : List Doc := ibox 0 (expression ++ word ";")

/-- The fields of a type with their types. -/
def typedFields (t : ClientType) : List (List Doc) :=
  t.fields.zipWith typed (connectionType :: t.keys.map fun _ => word "String")

theorem typedFields_eq (t : ClientType) : typedFields t =
    typed "client" connectionType :: t.keys.map fun key => typed key (word "String") := by
  rw [typedFields, ClientType.fields, List.zipWith_cons_cons, List.zipWith_map_right,
    List.zipWith_self]

/-- The widest list of fields that is written on one line. -/
def fieldsLimit : Nat := 34

/-- The value whose fields are the variables of their names. -/
def record (fields : List String) : List Doc :=
  [.box .consistent 4 (some fieldsLimit)
    (ibox (-4) (word "Self") ++ word " \x7b" ++ [blank] ++ separated (fields.map word) ++
      [.gap { blank := 1, offset := -4, atBreak := "," }])] ++ word "\x7d"

/-- The function that makes the values of a type. -/
def constructor (t : ClientType) : List Doc :=
  function [] "new" (typedFields t) (word "Self") [value (record t.fields)]

def ownField (name : String) : List Doc := chain (word "self") [link name]

def ownCopy (name : String) : List Doc := chain (word "self") [link name, callLink "clone" []]

/-- The text of a key that was handed in. -/
def keyText (name : String) : List Doc := chain (word name) [callLink "to_string" []]

def accessor (a : Accessor) : List Doc :=
  let key := a.key?.toList
  function a.doc a.name
    (word "&self" :: key.map fun k => typed k (word "impl ::std::fmt::Display"))
    (borrowing a.target)
    [value (word (a.target ++ "::new") ++
      inParens (ownField "client" :: a.inherited.map ownCopy ++ key.map keyText))]

def path (p : PathTemplate) : List Doc :=
  if p.keys.isEmpty then word (literal p.text)
  else
    let keys := p.keys.map fun k =>
      word "encode_segment(&" ++ [blank] ++ word "self" ++ link k ++ word ")"
    word "&format!(" ++
      cbox 4 (cut :: ibox 0 (separated (word (literal p.text) :: keys)) ++
        [.gap { offset := -4 }]) ++
      word ")"

/-- The statement that sets the field of an argument. -/
def setField (a : Argument) : List Doc :=
  let given := if a.isFamily && !a.isOptional then word "Some" ++ inParens [word a.name]
    else word a.name
  statement (chain (word "req_params")
    [callLink (if a.isFamily then "set_indexed" else "set") [word (literal a.wireName), given]])

def verbName : Verb → String
  | .get => "Verb::Get"
  | .post => "Verb::Post"
  | .put => "Verb::Put"
  | .delete => "Verb::Delete"

/-- The statement that makes the fields of a request, of which there are none at first. -/
def newFields (isChanged : Bool) : List Doc :=
  statement (word (if isChanged then "let mut req_params = " else "let req_params = ") ++
    [.gap { isFixed := true }] ++ word "Params::new" ++ inParens [])

def request (o : Operation) : List Doc :=
  cbox 4 (cbox (-4) (word "self") ++ word ".client" ++
    callLink "execute" [word (verbName o.verb), path o.path, word "req_params"])

/-- The statements that send a request and give back what the operation returns. -/
def sending (o : Operation) : List (List Doc) :=
  if o.returnsAnswer then [value (request o)]
  else [statement (request o ++ word "?"), value (word "Ok(())")]

def operation (o : Operation) : List Doc :=
  let result : List Doc := word "Result" ++
    inAngles [word (if o.returnsAnswer then "ApiResult" else "()"), word "ClientError"]
  function o.doc o.name
    (word "&self" :: o.arguments.map fun a => typed a.name (argumentType a))
    result (newFields (!o.arguments.isEmpty) :: o.arguments.map setField ++ sending o)

def declaration (t : ClientType) : List Doc :=
  docComment t.doc ++ word "#[derive(Clone)]" ++ [blank] ++
    cbox 4 (word ("pub struct " ++ t.name) ++ lifeParameter ++ word " \x7b" ++ [lineEnd] ++
      lineBlock ((typedFields t).map (· ++ word ",")) ++ word "\x7d") ++ [lineEnd]

def implementation (t : ClientType) : List Doc :=
  cbox 4 (ibox (-4) (cbox 4 (word "impl" ++ lifeParameter) ++ word " " ++ borrowing t.name) ++
      word " \x7b" ++ [lineEnd] ++
      lineBlock (constructor t :: t.accessors.map accessor ++ t.operations.map operation) ++
      word "\x7d") ++ [lineEnd]

def importLine (runtime : ModulePath) (names : List String) : List Doc :=
  word ("use " ++ (if runtime.isAbsolute then "::" else "") ++
      String.join (runtime.segments.map (· ++ "::"))) ++
    (match names with
      | [name] => word name
      | names => cbox 4 (word "\x7b" ++ [cut] ++ ibox 0 (separated (names.map word)) ++
          [.gap { offset := -4, atBreak := "," }] ++ word "\x7d")) ++
    word ";" ++ [lineEnd]

def text (runtime : ModulePath) (m : ClientModule) : String :=
  render (cbox 0 (importLine runtime m.imports ++
    m.types.flatMap fun t => declaration t ++ implementation t))

end Code

def headerText (header : Option String) : String :=
  String.join (("This code was automatically generated by gen_client. Do not edit manually." ::
    Text.lines (header.getD "")).map fun line => "// " ++ line ++ "\n") ++ "\n"

end ApiAtlas.Client
