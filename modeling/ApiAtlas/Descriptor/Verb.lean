/-!
# Verbs

The methods of requests that a resource can answer. Their names are read in any letter case.
-/

namespace ApiAtlas.Descriptor

inductive Verb where
  | get
  | post
  | put
  | delete
  deriving DecidableEq, Repr

namespace Verb

def text : Verb → String
  | .get => "GET"
  | .post => "POST"
  | .put => "PUT"
  | .delete => "DELETE"

def lowerText : Verb → String
  | .get => "get"
  | .post => "post"
  | .put => "put"
  | .delete => "delete"

def ofText? (name : String) : Option Verb :=
  match String.ofList (name.toList.map Char.toLower) with
  | "get" => some .get
  | "post" => some .post
  | "put" => some .put
  | "delete" => some .delete
  | _ => none

@[simp] theorem ofText?_text (verb : Verb) : ofText? verb.text = some verb := by
  cases verb <;> decide

@[simp] theorem ofText?_lowerText (verb : Verb) : ofText? verb.lowerText = some verb := by
  cases verb <;> decide

def sendsBody : Verb → Bool
  | .post | .put => true
  | .get | .delete => false

def unknownMessage (name : String) : String := "unknown http method '" ++ name ++ "'"

end Verb

end ApiAtlas.Descriptor
