import ApiAtlas.Naming.Reserved

/-!
# Generator settings

The choices of the user of the generator.
-/

namespace ApiAtlas.Client

structure Settings where
  /-- The start of the name of every generated type. -/
  typeStem : String := "Pve"
  /-- What the name of the root type has behind its start. -/
  rootSuffix : String := "Api"
  /-- The module that the generated code imports its runtime from. -/
  runtimePath : String := "pve_apigen::client"
  extraReserved : List String := []
  header : Option String := none
  deriving DecidableEq, Repr

namespace Settings

def rootName (s : Settings) : String := s.typeStem ++ s.rootSuffix

def reserved (s : Settings) : Naming.Reserved := ⟨s.extraReserved⟩

end Settings

end ApiAtlas.Client
