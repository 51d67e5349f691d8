import ApiAtlas.Files.Path

/-!
# File trees

The files and directories below a directory. A file is replaced in one step: its new text is put
into a file of its own beside it, which then takes its name, or goes away if it cannot.
-/

namespace ApiAtlas.Files

inductive Entry where
  | directory
  | file (content : String)
  deriving DecidableEq, Repr

/-- What is at the paths of a tree; the top is a directory. -/
structure FileTree where
  entries : List (Path × Entry) := []
  deriving DecidableEq, Repr

namespace FileTree

def get? (t : FileTree) (path : Path) : Option Entry :=
  if path.isEmpty then some .directory else t.entries.lookup path

def erase (t : FileTree) (path : Path) : FileTree := ⟨t.entries.filter (·.1 != path)⟩

def put (t : FileTree) (path : Path) (e : Entry) : FileTree := ⟨(path, e) :: (t.erase path).entries⟩

theorem lookup_filter_of_ne {path other : Path} (h : other ≠ path) (entries : List (Path × Entry)) :
    (entries.filter (·.1 != path)).lookup other = entries.lookup other := by
  induction entries with
  | nil => rfl
  | cons entry rest ih =>
    obtain ⟨key, e⟩ := entry
    by_cases hk : key = path
    · subst hk
      have hne : (other == key) = false := beq_false_of_ne h
      simp [List.lookup_cons, hne, ih]
    · simp [hk, List.lookup_cons, ih]

theorem get?_erase_self (t : FileTree) {path : Path} (h : path ≠ []) :
    (t.erase path).get? path = none := by
  simp only [get?, List.isEmpty_iff, h, if_false]
  refine List.lookup_eq_none_iff.2 fun e he => ?_
  have hne : e.1 ≠ path := by simpa using (List.mem_filter.1 he).2
  simpa using hne.symm

theorem get?_erase_of_ne (t : FileTree) {path other : Path} (h : other ≠ path) :
    (t.erase path).get? other = t.get? other := by
  simp [get?, erase, lookup_filter_of_ne h]

theorem get?_put_self (t : FileTree) {path : Path} (h : path ≠ []) (e : Entry) :
    (t.put path e).get? path = some e := by
  simp [get?, put, h]

theorem get?_put_of_ne (t : FileTree) {path other : Path} (h : other ≠ path) (e : Entry) :
    (t.put path e).get? other = t.get? other := by
  have hne : (other == path) = false := beq_false_of_ne h
  simp [get?, put, erase, List.lookup_cons, hne, lookup_filter_of_ne h]

/-! ## Walking -/

/-- Goes from a directory on by a piece of a path. -/
def enter (t : FileTree) (here : Path) (piece : String) : Except FileError Path :=
  if isIdle piece then .ok here
  else if piece = ".." then .ok here.dropLast
  else if nameLimit < piece.utf8ByteSize then .error .nameTooLong
  else
    match t.get? (here ++ [piece]) with
    | some .directory => .ok (here ++ [piece])
    | some (.file _) => .error .notDirectory
    | none => .error .notFound

/-- Goes from the top through directories. -/
def walk (t : FileTree) (pieces : List String) : Except FileError Path :=
  pieces.foldlM t.enter []

def read (t : FileTree) (path : String) : Except FileError String := do
  checkText path
  let pieces := pieces path
  let last := pieces.getLastD ""
  if isIdle last || last == ".." then
    let _ ← t.walk pieces
    .error .isDirectory
  else
    let here ← t.walk pieces.dropLast
    if nameLimit < last.utf8ByteSize then .error .nameTooLong
    else
      match t.get? (here ++ [last]) with
      | some (.file content) => .ok content
      | some .directory => .error .isDirectory
      | none => .error .notFound

/-! ## Making directories -/

/-- Goes through directories and makes those that are missing. Those made stay if one cannot be. A
file takes the place of a directory at the end and behind one that was made, and elsewhere it is in
the way. -/
def makeDirectories (t : FileTree) (madeSome : Bool) (here : Path) :
    List String → FileTree × Except FileError Path
  | [] => (t, .ok here)
  | piece :: rest =>
    match t.enter here piece with
    | .ok there => makeDirectories t madeSome there rest
    | .error .notFound =>
      makeDirectories (t.put (here ++ [piece]) .directory) true (here ++ [piece]) rest
    | .error .notDirectory =>
      (t, .error (if madeSome || rest.isEmpty then .alreadyThere else .notDirectory))
    | .error e => (t, .error e)

/-- Makes the directory of a path and those above it. -/
def makePath (t : FileTree) (path : String) : FileTree × Except FileError Path :=
  match checkText path with
  | .ok () => t.makeDirectories false [] (pieces path)
  | .error e => (t, .error e)

/-! ## Replacing files -/

/-- Where a file goes that is moved to a path. -/
def landing (t : FileTree) (path : String) : Except FileError Path := do
  checkText path
  let pieces := pieces path
  match (pieces.filter (· != "")).getLast? with
  | none => .error .busy
  | some last =>
    let here ← t.walk (pieces.filter (· != "")).dropLast
    if last = "." ∨ last = ".." then .error .busy
    else if nameLimit < last.utf8ByteSize then .error .nameTooLong
    else if pieces.getLast? = some "" then .error .notDirectory
    else if t.get? (here ++ [last]) = some .directory then .error .isDirectory
    else .ok (here ++ [last])

/-- Gives the entry of one path to another. -/
def move (t : FileTree) (source target : Path) : FileTree :=
  match t.get? source with
  | some e => (t.erase source).put target e
  | none => t

/-- A name that nothing in a directory has. -/
def freshName (t : FileTree) (here : Path) : String :=
  let names := (List.range (t.entries.length + 1)).map fun n => ".tmp" ++ toString n
  (names.find? fun name => (t.get? (here ++ [name])).isNone).getD ""

/-- The number of bytes in the path of a file of a new text beyond the path of its directory: the
path of the top, a name, and the slashes around. -/
def stagingLength : Nat := 27

/-- A path that could not be written, and why. -/
structure WriteError where
  path : String
  reason : FileError
  deriving DecidableEq, Repr

/-- Replaces the file of a path by a text. The directories above it are made. -/
def replace (t : FileTree) (path content : String) : FileTree × Except WriteError Unit :=
  let parent := parentText path
  match t.makePath parent with
  | (t, .error e) => (t, .error ⟨parent, e⟩)
  | (t, .ok here) =>
    if pathLimit < parent.utf8ByteSize + stagingLength then (t, .error ⟨path, .nameTooLong⟩)
    else
      let temporary := here ++ [t.freshName here]
      let staged := t.put temporary (.file content)
      match staged.landing path with
      | .ok target => (staged.move temporary target, .ok ())
      | .error e => (staged.erase temporary, .error ⟨path, e⟩)

end FileTree

end ApiAtlas.Files
