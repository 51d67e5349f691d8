import ApiAtlas.Client.Source
import ApiAtlas.Request.Percent

/-!
# Filled paths

The path that a generated operation asks for when it runs. The path of an operation without keys is
its text. Otherwise the text is cut into characters and holes: a pair of braces is a hole, and a
brace that is written twice is one brace. A text with other braces, which would name a value or a
format, has no pieces here. The holes are filled with the encoded values of the key fields, in
order; there must be as many values as holes.
-/

namespace ApiAtlas.Client

/-- A part of a text with holes. -/
inductive Piece where
  | char (c : Char)
  | hole
  deriving DecidableEq, Repr

/-- The pieces of a text, if all its braces are holes or are written twice. -/
def pieces? : List Char → Option (List Piece)
  | [] => some []
  | c :: cs =>
    if c = '{' then
      match cs with
      | '{' :: rest => (pieces? rest).map (.char '{' :: ·)
      | '}' :: rest => (pieces? rest).map (.hole :: ·)
      | _ => none
    else if c = '}' then
      match cs with
      | '}' :: rest => (pieces? rest).map (.char '}' :: ·)
      | _ => none
    else (pieces? cs).map (.char c :: ·)

/-- Pieces with their holes filled by values in order; none if their numbers differ. -/
def fillHoles : List Piece → List (List Char) → Option (List Char)
  | [], [] => some []
  | .char c :: pieces, values => (fillHoles pieces values).map (c :: ·)
  | .hole :: pieces, value :: values => (fillHoles pieces values).map (value ++ ·)
  | _, _ => none

def formatted? (text : String) (values : List String) : Option String := do
  let pieces ← pieces? text.toList
  (fillHoles pieces (values.map String.toList)).map String.ofList

/-- A template filled with values in order. Without keys it is no text with holes. -/
def PathTemplate.filled? (t : PathTemplate) (values : List String) : Option String :=
  if t.keys.isEmpty then some t.text else formatted? t.text values

/-- The path that a template gives for the values of the key fields. -/
def PathTemplate.path? (t : PathTemplate) (field : String → String) : Option String :=
  t.filled? (t.keys.map fun key => Request.encodeSegment (field key))

/-- An expression for the path of a request. -/
inductive PathExpression where
  | literal (text : String)
  /-- A text with holes for the encoded values of key fields. -/
  | format (text : String) (keys : List String)
  deriving DecidableEq, Repr

namespace PathExpression

def code : PathExpression → List Layout.Doc
  | literal text => Code.word (Lexical.literal text)
  | format text keys =>
    let values := keys.map fun key =>
      Code.word "encode_segment(&" ++ [Code.blank] ++ Code.word "self" ++ Code.link key ++
        Code.word ")"
    Code.word "&format!(" ++ Code.cbox 4 (Code.cut ::
      Code.ibox 0 (Code.separated (Code.word (Lexical.literal text) :: values)) ++
        [.gap { offset := -4 }]) ++ Code.word ")"

/-- The text that an expression stands for where the key fields have values. -/
def value? (field : String → String) : PathExpression → Option String
  | literal text => some text
  | format text keys => formatted? text (keys.map fun key => Request.encodeSegment (field key))

end PathExpression

namespace PathTemplate

def expression (t : PathTemplate) : PathExpression :=
  if t.keys.isEmpty then .literal t.text else .format t.text t.keys

theorem code_expression (t : PathTemplate) : t.expression.code = Code.path t := by
  unfold expression Code.path
  split <;> rfl

theorem value?_expression (t : PathTemplate) (field : String → String) :
    t.expression.value? field = t.path? field := by
  unfold expression path? filled?
  split <;> rfl

end PathTemplate

/-- What the field of a key holds in a value that is made from the values of the keys in order. -/
def fieldValue (keys values : List String) (key : String) : String :=
  ((keys.zip values).lookup key).getD ""

end ApiAtlas.Client
