import ApiAtlas.Descriptor.Method

/-!
# Generated clients

A client has a type for every resource. A value of it holds the connection and the values of the
placeholders on the way to the resource; it leads to the types of the children and has an operation
for every method.
-/

namespace ApiAtlas.Client

open Descriptor

/-- An argument of an operation and the field that it sets. -/
structure Argument where
  name : String
  wireName : String
  valueType : ValueType
  isOptional : Bool

def Argument.isFamily (a : Argument) : Bool := isFamilyName a.wireName

/-- A path with holes for the values of key fields; the holes are written as an empty pair of
braces. -/
structure PathTemplate where
  text : String
  keys : List String

structure Operation where
  name : String
  doc : List String
  verb : Verb
  path : PathTemplate
  arguments : List Argument
  /-- Whether the operation gives back what the server returns. -/
  returnsAnswer : Bool

/-- A function that leads to the type of a child. -/
structure Accessor where
  name : String
  doc : List String
  /-- The type that it leads to. -/
  target : String
  /-- The key fields that are handed on. -/
  inherited : List String
  /-- The key that is asked for, if the child is a placeholder. -/
  key? : Option String

structure ClientType where
  name : String
  doc : List String
  keys : List String
  accessors : List Accessor
  operations : List Operation

/-- The fields of a type, which are also what its values are made from. -/
def ClientType.fields (t : ClientType) : List String := "client" :: t.keys

def ClientType.functionNames (t : ClientType) : List String :=
  t.accessors.map (·.name) ++ t.operations.map (·.name)

structure ClientModule where
  /-- The module that the runtime is imported from, as the user wrote it. -/
  runtimePath : String
  types : List ClientType

namespace ClientModule

def operations (m : ClientModule) : List Operation := m.types.flatMap (·.operations)

/-- The imported names that the code refers to, sorted. -/
def imports (m : ClientModule) : List String :=
  let whenAny (names : List String) (used : Operation → Bool) : List String :=
    if m.operations.any used then names else []
  whenAny ["ApiResult"] (·.returnsAnswer) ++ ["Client"] ++
    whenAny ["ClientError", "Params", "Verb"] (fun _ => true) ++
    whenAny ["encode_segment"] (!·.path.keys.isEmpty)

end ClientModule

end ApiAtlas.Client
