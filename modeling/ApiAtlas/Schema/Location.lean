import ApiAtlas.Json.Basic

/-!
# Places in a document

A location is the list of steps from the root of a document to one of its values. It is written as
`$`, then `.name` for a step into an object and `[i]` for a step into an array.
-/

namespace ApiAtlas.Schema

/-- A step from a value to one that it holds. -/
inductive Step where
  | key (name : String)
  | index (i : Nat)
  deriving DecidableEq, Repr

def Step.apply? (v : Json) : Step → Option Json
  | .key name => v.member? name
  | .index i => v.items?.bind (·[i]?)

def Step.text : Step → String
  | .key name => "." ++ name
  | .index i => "[" ++ toString i ++ "]"

/-- The steps from the root of a document, outermost first. -/
abbrev Location := List Step

namespace Location

def text (place : Location) : String := "$" ++ String.join (place.map Step.text)

/-- The value at a location of a document. -/
def get? (document : Json) (place : Location) : Option Json := place.foldlM Step.apply? document

@[simp] theorem get?_nil (document : Json) : get? document [] = some document := rfl

theorem get?_append (document : Json) (place more : Location) :
    get? document (place ++ more) = (get? document place).bind (get? · more) := by
  simp [get?, List.foldlM_append]

end Location

/-- What a value was expected to be. -/
inductive Shape where
  | object
  | array
  | string
  | boolean
  | number
  /-- A document: an array, or a script that holds one. -/
  | document
  deriving DecidableEq, Repr

def Shape.text : Shape → String
  | .object => "object"
  | .array => "array"
  | .string => "string"
  | .boolean => "boolean"
  | .number => "number"
  | .document => "JSON array or apidoc.js script"

/-- Why a document could not be used. -/
inductive SchemaError where
  /-- The text is not JSON. -/
  | malformed
  | unexpectedShape (place : Location) (expected : Shape)
  | missingField (place : Location) (name : String)
  deriving DecidableEq, Repr

def SchemaError.message : SchemaError → String
  | .malformed => "invalid schema json: malformed document"
  | .unexpectedShape place expected =>
    "unexpected shape at " ++ place.text ++ ": expected " ++ expected.text
  | .missingField place name => "missing field '" ++ name ++ "' at " ++ place.text

end ApiAtlas.Schema
