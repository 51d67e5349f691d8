import ApiAtlas.Client.Assembly
import ApiAtlas.Client.Source

/-!
# Generating clients

The code of a client is given only if its names can be written. The names that come from resources
and parameters are made to fit; those that the settings have a part in are checked.
-/

namespace ApiAtlas.Client

open Lexical Resources

/-- Why there is no code. -/
inductive CodeError where
  /-- A type name is no identifier. -/
  | invalidName (name : String)
  /-- The runtime path is no path of modules. -/
  | invalidPath (path : String)
  /-- A type name is a keyword. -/
  | keyword (name : String)
  deriving DecidableEq, Repr

def CodeError.message : CodeError → String
  | .invalidName name => "'" ++ name ++ "' is not an identifier"
  | .invalidPath path => "generated code is invalid: '" ++ path ++ "' is not a module path"
  | .keyword name => "generated code is invalid: '" ++ name ++ "' is a keyword"

/-- The runtime path of a client whose names can be written. All type names are looked at first,
then the path, then the type names for keywords. -/
def checkNames (m : ClientModule) : Except CodeError ModulePath :=
  match m.types.find? fun t => !isName t.name with
  | some t => .error (.invalidName t.name)
  | none =>
    match ModulePath.ofText? m.runtimePath with
    | none => .error (.invalidPath m.runtimePath)
    | some runtime =>
      match m.types.find? fun t => isKeyword t.name with
      | some t => .error (.keyword t.name)
      | none => .ok runtime

/-- The code of the client of a catalog. -/
def generate (c : Catalog) (s : Settings) : Except CodeError String := do
  let m := assemble c s
  let runtime ← checkNames m
  return headerText s.header ++ Code.text runtime m

end ApiAtlas.Client
