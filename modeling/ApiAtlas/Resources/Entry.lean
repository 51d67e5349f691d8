import ApiAtlas.Descriptor.Method

/-!
# Entries

The entries of a descriptor tell resources with the resources below them. An entry names its last
path segment and its whole path, which must fit together; a segment that starts with a brace is a
placeholder, and of the entries of one list at most one may have one.
-/

namespace ApiAtlas.Resources

open Schema Descriptor

/-- A member that every entry must have. -/
inductive EntryField where
  | text
  | path
  deriving DecidableEq, Repr

def EntryField.name : EntryField → String
  | .text => "text"
  | .path => "path"

/-- Why a descriptor has no catalog. -/
inductive BuildError where
  | missingField (path : String) (field : EntryField)
  | pathMismatch (path parent segment : String)
  | secondPlaceholder (parent existing segment : String)
  | schema (error : SchemaError)
  deriving DecidableEq, Repr

def BuildError.message : BuildError → String
  | .missingField path field =>
    "resource entry at " ++ path ++ " is missing required field '" ++ field.name ++ "'"
  | .pathMismatch path parent segment =>
    "resource path '" ++ path ++ "' does not extend parent path '" ++ parent ++
      "' with segment '" ++ segment ++ "'"
  | .secondPlaceholder parent existing segment =>
    "resource '" ++ parent ++ "' already has placeholder child '" ++ existing ++
      "', cannot add '" ++ segment ++ "'"
  | .schema error => error.message

/-- Whether a segment stands for any text. -/
def isPlaceholderName (name : String) : Bool := name.toList.head? == some '{'

def pathBelow (parent name : String) : String := parent ++ "/" ++ name

/-- A complaint about the document as one about its entries. -/
def liftSchema {α : Type} : Except SchemaError α → Except BuildError α :=
  Except.mapError .schema

/-- Name and path of an entry below a parent path, given the placeholder among the entries before
it. -/
def entryHeader (parent : String) (earlier : Option String) (entry : Cursor) :
    Except BuildError (String × String) :=
  match entry.text? "text", entry.text? "path" with
  | none, path? =>
    .error (.missingField (path?.getD (parent ++ "/<" ++ entry.place.text ++ ">")) .text)
  | some text, none => .error (.missingField (pathBelow parent text) .path)
  | some text, some path =>
    if path ≠ pathBelow parent text then .error (.pathMismatch path parent text)
    else
      match earlier with
      | some existing =>
        if isPlaceholderName text then .error (.secondPlaceholder parent existing text)
        else .ok (text, path)
      | none => .ok (text, path)

theorem entryHeader_eq_ok {parent name path : String} {earlier : Option String} {entry : Cursor} :
    entryHeader parent earlier entry = .ok (name, path) ↔
      entry.text? "text" = some name ∧ entry.text? "path" = some path ∧
        path = pathBelow parent name ∧ (isPlaceholderName name = true → earlier = none) := by
  unfold entryHeader
  cases ht : entry.text? "text" with
  | none => simp
  | some text =>
    cases hp : entry.text? "path" with
    | none => simp
    | some given =>
      by_cases hg : given = pathBelow parent text
      · cases earlier with
        | none => simp only [Option.some.injEq]; grind
        | some existing => by_cases hb : isPlaceholderName text = true <;> grind
      · simp only [if_pos hg, Option.some.injEq]
        grind

/-- The methods of an entry in document order; names that are no verbs are passed over. -/
def entryMethods (entry : Cursor) : Except SchemaError (List Method) :=
  match entry.get? "info" with
  | none => .ok []
  | some info => do
    let described := (← info.entries).filterMap fun (name, schema) =>
      (Verb.ofText? name).map fun verb => (verb, schema)
    described.mapM fun (verb, schema) => Method.ofSchema verb schema

def entriesBelow (entry : Cursor) : Except SchemaError (List Cursor) :=
  match entry.get? "children" with
  | none => .ok []
  | some children => children.items

theorem sizeOf_lt_of_mem_entriesBelow {entry child : Cursor} {list : List Cursor}
    (h : entriesBelow entry = .ok list) (hm : child ∈ list) :
    sizeOf child.value < sizeOf entry.value := by
  unfold entriesBelow at h
  split at h
  · obtain rfl := Except.ok.inj h
    simp at hm
  · rename_i children hc
    exact Nat.lt_trans (Cursor.sizeOf_lt_of_mem_items h hm) (Cursor.sizeOf_lt_of_get? hc)

end ApiAtlas.Resources
