import ApiAtlas.Descriptor.Method

/-!
# Readable answers

The fields of an answer that the method describes with a renderer are replaced by their readable
text. Fields without one and answers of another shape stay as they are.
-/

namespace ApiAtlas.Explorer

open Descriptor Rendering

def hintedFields (m : Method) : List Parameter :=
  m.returns.fields.filter fun p => p.renderer ≠ .none

/-- A member of an answer, rendered if it is hinted. -/
def renderMember (hinted : List Parameter) (name : String) (value : Json) : Json :=
  match hinted.find? (·.wireName == name) with
  | some p => .str (valueText p.renderer value)
  | none => value

/-- An object of an answer with its hinted members rendered; any other value as it is. -/
def renderObject (hinted : List Parameter) (item : Json) : Json :=
  match item.members? with
  | some members => .obj (members.map fun (name, v) => (name, renderMember hinted name v))
  | none => item

def renderAnswer (m : Method) (answer : Json) : Json :=
  let hinted := hintedFields m
  if hinted.isEmpty then answer
  else
    match m.returns.kind, answer with
    | .array, .arr items => .arr (items.map (renderObject hinted))
    | .object, .obj _ => renderObject hinted answer
    | _, _ => answer

end ApiAtlas.Explorer
