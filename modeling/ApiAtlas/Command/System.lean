import ApiAtlas.Command.Error
import ApiAtlas.Files.Faults
import ApiAtlas.Request.Http

/-!
# What commands run on

A system gives commands the variables of the environment, files and a way to send requests. A desk
is a system that can be looked at: it keeps its files in a tree and the requests that were sent.
Sending comes to one result for all of them, which is a reply or a failure.
-/

namespace ApiAtlas.Command

open Files Request

structure System (m : Type → Type) where
  valueOf? : String → m (Option String)
  read : String → m (Except FileError String)
  /-- Replaces the file of a path by a text. -/
  replace : String → String → m (Except FileTree.WriteError Unit)
  send : HttpRequest → m (Except RequestError Reply)

/-- What a command does: it fails, or it has something to show. -/
abbrev Action (m : Type → Type) := ExceptT CommandError m

/-- Does something of a system, with the failure that its own means for a command. -/
def attempt {m : Type → Type} [Monad m] {ε α : Type} (failure : ε → CommandError)
    (x : m (Except ε α)) : Action m α := ExceptT.mk do
  match ← x with
  | .ok a => pure (.ok a)
  | .error e => pure (.error (failure e))

/-- Goes on with a result, with the failure that its own means for a command. -/
def settle {m : Type → Type} [Monad m] {ε α : Type} (failure : ε → CommandError)
    (result : Except ε α) : Action m α := attempt failure (pure result)

namespace System

variable {m : Type → Type} [Monad m]

def require (sys : System m) (name need : String) : Action m String := do
  match ← sys.valueOf? name with
  | some value => pure value
  | none => throw (.unset need)

end System

/-- A reply that came is a result of sending. -/
instance : Coe Reply (Except RequestError Reply) := ⟨.ok⟩

structure Desk where
  environment : List (String × String) := []
  files : FileTree := {}
  reply : Except RequestError Reply := (⟨200, ""⟩ : Reply)
  sent : List HttpRequest := []
  deriving Repr

/-- The system of a desk. -/
def Desk.system : System (StateM Desk) where
  valueOf? name := return (← get).environment.lookup name
  read path := return (← get).files.read path
  replace path content := do
    let (files, result) := (← get).files.replace path content
    modify fun desk => { desk with files := files }
    return result
  send request := do
    modify fun desk => { desk with sent := desk.sent ++ [request] }
    return (← get).reply

/-- The system of a desk where a fault may come up on files. -/
def Desk.systemUnder (fault : Option Fault) : System (StateM Desk) where
  valueOf? := Desk.system.valueOf?
  read path := return (← get).files.readUnder fault path
  replace path content := do
    let (files, result) := (← get).files.replaceUnder fault path content
    modify fun desk => { desk with files := files }
    return result
  send := Desk.system.send

theorem Desk.systemUnder_none : Desk.systemUnder none = Desk.system := by
  simp only [systemUnder, system, FileTree.replaceUnder_none]
  rfl

end ApiAtlas.Command
