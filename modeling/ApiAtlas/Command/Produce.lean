import ApiAtlas.Client.SettingsFile
import ApiAtlas.Command.System
import ApiAtlas.Command.Words

/-!
# Producing clients

The command that turns a schema into the code of a client, and shows the code or puts it into a
file. Nothing is written before the code is whole.
-/

namespace ApiAtlas.Command

open Client Resources

structure ProduceRequest where
  schema : String
  settings : Option String
  /-- The file for the code; without one the code is shown. -/
  target : Option String
  deriving DecidableEq, Repr

/-- What the words of a command line ask for. -/
def ProduceRequest.ofWords? (words : List String) : Option ProduceRequest := do
  let w ← Words.sort? { flags := ["dry-run"], options := ["schema", "out", "config"] } words
  let schema ← w.option? "schema"
  let target := w.option? "out"
  if !w.plain.isEmpty || (target.isNone && !w.hasFlag "dry-run") then none
  return ⟨schema, w.option? "config", if w.hasFlag "dry-run" then none else target⟩

section

variable {m : Type → Type} [Monad m] (sys : System m)

/-- The settings of a file; the usual ones if there is none. -/
def loadSettings : Option String → Action m Settings
  | none => pure {}
  | some path => do
    let text ← attempt (.unreadableSettings path) (sys.read path)
    match Settings.ofYaml? text with
    | some s => pure s
    | none => throw (.invalidSettings path)

def produceCode (r : ProduceRequest) : Action m String := do
  let settings ← loadSettings sys r.settings
  let text ← attempt (.unreadableSchema r.schema) (sys.read r.schema)
  let c ← settle (.invalidSchema "parse api descriptor") (Catalog.ofText text)
  settle .code (generate c settings)

/-- Does what the words of a command line ask for; gives what is to be shown. -/
def produce (words : List String) : Action m String := do
  match ProduceRequest.ofWords? words with
  | none => throw .usage
  | some r =>
    let code ← produceCode sys r
    match r.target with
    | none => return code
    | some path =>
      attempt .write (sys.replace path code)
      return ""

end

end ApiAtlas.Command
