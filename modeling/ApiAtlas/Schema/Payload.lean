import ApiAtlas.Json.Reader
import ApiAtlas.Schema.Location
import ApiAtlas.Text.Blank

/-!
# Documents

A descriptor comes as a bare JSON document or inside the script of an API viewer, where it is the
array behind the word `apiSchema`. In a script only that array matters; what follows it is not
read.
-/

namespace ApiAtlas.Schema

/-- How deeply the brackets of a document may be nested. -/
def depthLimit : Nat := 127

/-- The word in front of the array of a script. -/
def marker : List Char := "apiSchema".toList

/-- The part of a text from the first occurrence of a word on. -/
def fromWord? (word : List Char) : List Char → Option (List Char)
  | [] => if word.isEmpty then some [] else none
  | c :: cs => if word.isPrefixOf (c :: cs) then some (c :: cs) else fromWord? word cs

/-- The part of a script that starts with its array. -/
def scriptArray? (cs : List Char) : Option (List Char) :=
  match (fromWord? marker cs).map fun rest => rest.dropWhile (· != '[') with
  | some [] | none => none
  | found => found

def parsePayload (text : String) : Except SchemaError Json :=
  let cs := Text.trimStart text.toList
  if cs.head? = some '[' || cs.head? = some '{' then
    match Json.read? depthLimit cs with
    | some v => .ok v
    | none => .error .malformed
  else
    match scriptArray? cs with
    | none => .error (.unexpectedShape [] .document)
    | some rest =>
      match Json.value depthLimit rest with
      | some (v, _) => .ok v
      | none => .error .malformed

end ApiAtlas.Schema
