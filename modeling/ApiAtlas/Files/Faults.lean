import ApiAtlas.Files.Tree

/-!
# Faults of a file system

What can go wrong with files beyond what their tree tells: a file cannot be read, a directory cannot
be made, a disk is full. A replacement can stop at each of its steps, and what it leaves then is the
tree behind the steps before.
-/

namespace ApiAtlas.Files

inductive Fault where
  | reading (path : String) (reason : FileError)
  /-- Directories are made only along the first pieces of a path. -/
  | making (count : Nat) (reason : FileError)
  /-- No file can be made for a new text. -/
  | staging (reason : FileError)
  /-- The file of a new text gets another text, a part of it perhaps. -/
  | writing (written : String) (reason : FileError)
  /-- The file of a new text cannot take the name that it is for. -/
  | landing (reason : FileError)
  deriving DecidableEq, Repr

namespace FileTree

/-- The text of a file, where a fault may stop the reading. -/
def readUnder (fault : Option Fault) (t : FileTree) (path : String) : Except FileError String :=
  match fault with
  | some (.reading unreadable e) => if path = unreadable then .error e else t.read path
  | _ => t.read path

/-- Makes the directory of a path, where a fault may stop that. -/
def makePathUnder (fault : Option Fault) (t : FileTree) (path : String) :
    FileTree × Except FileError Path :=
  match fault with
  | some (.making count e) => ((t.makeDirectories false [] ((pieces path).take count)).1, .error e)
  | _ => t.makePath path

/-- What becomes of the file of a new text: it goes where it lands, or away if it cannot. -/
def finish (staged : FileTree) (temporary : Path) (path : String) :
    Except FileError Path → FileTree × Except WriteError Unit
  | .ok target => (staged.move temporary target, .ok ())
  | .error e => (staged.erase temporary, .error ⟨path, e⟩)

/-- Replaces the file of a path by a text, where a fault may stop that. -/
def replaceUnder (fault : Option Fault) (t : FileTree) (path content : String) :
    FileTree × Except WriteError Unit :=
  let parent := parentText path
  match t.makePathUnder fault parent with
  | (t, .error e) => (t, .error ⟨parent, e⟩)
  | (t, .ok here) =>
    if pathLimit < parent.utf8ByteSize + stagingLength then (t, .error ⟨path, .nameTooLong⟩)
    else
      let temporary := here ++ [t.freshName here]
      let staged := t.put temporary (.file content)
      match fault with
      | some (.staging e) => (t, .error ⟨path, e⟩)
      | some (.writing written e) =>
        (t.put temporary (.file written)).finish temporary path (.error e)
      | some (.landing e) => staged.finish temporary path (.error e)
      | _ => staged.finish temporary path (staged.landing path)

theorem replaceUnder_none (t : FileTree) (path content : String) :
    t.replaceUnder none path content = t.replace path content := by
  unfold replaceUnder replace makePathUnder
  dsimp only
  cases t.makePath (parentText path) with
  | mk made result =>
    cases result with
    | error e => rfl
    | ok here =>
      dsimp only
      split
      · rfl
      · cases (made.put (here ++ [made.freshName here]) (.file content)).landing path <;> rfl

end FileTree

end ApiAtlas.Files
