import ApiAtlas.Descriptor.Parameter
import ApiAtlas.Descriptor.Verb
import ApiAtlas.Text.Lines

/-!
# Methods

What a resource does for a verb: its parameters and what it returns. The first link of the returned
value tells which of its fields names the resources below.
-/

namespace ApiAtlas.Descriptor

open Schema

inductive ReturnKind where
  | none
  | scalar
  | array
  | object
  deriving DecidableEq, Repr

def ReturnKind.text : ReturnKind → String
  | .none => "none"
  | .scalar => "scalar"
  | .array => "array"
  | .object => "object"

/-- The kind that a type name means; an unknown name and none at all mean a scalar. -/
def ReturnKind.ofName? : Option String → ReturnKind
  | some "null" => .none
  | some "array" => .array
  | some "object" => .object
  | _ => .scalar

structure Returns where
  kind : ReturnKind
  fields : List Parameter
  /-- The field that names the resources below; empty if there is none. -/
  linkKey : String

def Returns.nothing : Returns := ⟨.none, [], ""⟩

def withoutBraces (s : String) : String := Text.without (fun c => c == '{' || c == '}') s

/-- The link key of a description of what is returned. -/
def linkKeyOf (schema : Cursor) : Except SchemaError String :=
  match schema.get? "links" with
  | none => .ok ""
  | some links => do
    let href? := (← links.items).head?.bind (·.text? "href")
    return (href?.map withoutBraces).getD ""

/-- Reads a description of what is returned: an object with properties, an array of such objects,
or a value of a named type. -/
def Returns.ofSchema (schema : Cursor) : Except SchemaError Returns := do
  let key ← linkKeyOf schema
  match schema.get? "properties" with
  | some properties => return ⟨.object, ← Parameter.ofProperties properties, key⟩
  | none =>
    match schema.getPath? ["items", "properties"] with
    | some properties => return ⟨.array, ← Parameter.ofProperties properties, key⟩
    | none => return ⟨.ofName? (schema.text? "type"), [], key⟩

structure Method where
  verb : Verb
  name : String
  comment : Option String
  parameters : List Parameter
  returns : Returns

namespace Method

def ofSchema (verb : Verb) (schema : Cursor) : Except SchemaError Method := do
  let name ← (← schema.field "name").asText
  let parameters ← match schema.getPath? ["parameters", "properties"] with
    | some properties => Parameter.ofProperties properties
    | none => pure []
  let returns ← match schema.get? "returns" with
    | some returns => Returns.ofSchema returns
    | none => pure .nothing
  return { verb, name, comment := schema.text? "description", parameters, returns }

def required (m : Method) : List Parameter := m.parameters.filter (!·.isOptional)

def optional (m : Method) : List Parameter := m.parameters.filter (·.isOptional)

def parameter? (m : Method) (wireName : String) : Option Parameter :=
  m.parameters.find? (·.wireName == wireName)

/-- Required parameters come before optional ones, and each group is sorted by wire name. -/
def precedes (a b : Parameter) : Bool :=
  if a.isOptional = b.isOptional then a.wireName ≤ b.wireName else !a.isOptional

/-- The parameters that a call states, in order: those that the path binds are left out. -/
def orderedParameters (m : Method) (keyChain : List String) : List Parameter :=
  (m.parameters.filter fun p => !keyChain.contains p.wireName).mergeSort precedes

def toJson (m : Method) : Json := .obj [
  ("verb", .str m.verb.text),
  ("name", .str m.name),
  ("comment", .ofText? m.comment),
  ("parameters", .arr (Parameter.listToJson m.parameters)),
  ("return_kind", .str m.returns.kind.text),
  ("return_parameters", .arr (Parameter.listToJson m.returns.fields)),
  ("return_link_key", .str m.returns.linkKey)]

end Method

end ApiAtlas.Descriptor
