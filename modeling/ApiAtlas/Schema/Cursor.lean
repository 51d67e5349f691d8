import ApiAtlas.Json.Printer
import ApiAtlas.Schema.Location
import ApiAtlas.Text.Blank

/-!
# Cursors

A cursor is a value together with its place in the document, so that every complaint about it can
say where it is. Descriptors are loose about absent members: null counts as absent.
-/

namespace ApiAtlas.Schema

/-- A value and its place in the document. -/
structure Cursor where
  value : Json
  place : Location := []

namespace Cursor

/-- The complaint that the value has another shape than expected. -/
def mismatch {α : Type} (c : Cursor) (expected : Shape) : Except SchemaError α :=
  .error (.unexpectedShape c.place expected)

/-- The cursor after a step to a value below. -/
def step (c : Cursor) (s : Step) (v : Json) : Cursor := ⟨v, c.place ++ [s]⟩

def isObject (c : Cursor) : Bool := c.value.members?.isSome

/-- The members of an object, each name once. -/
def asMembers (c : Cursor) : Except SchemaError (Fields Json) :=
  match c.value.members? with
  | some fields => .ok fields
  | none => c.mismatch .object

def asArray (c : Cursor) : Except SchemaError (List Json) :=
  match c.value.items? with
  | some items => .ok items
  | none => c.mismatch .array

def asText (c : Cursor) : Except SchemaError String :=
  match c.value with
  | .str s => .ok s
  | _ => c.mismatch .string

def asBool (c : Cursor) : Except SchemaError Bool :=
  match c.value with
  | .bool b => .ok b
  | _ => c.mismatch .boolean

/-- A number, or a string that reads as one when trimmed. -/
def asNumber (c : Cursor) : Except SchemaError Binary64 :=
  let number? := match c.value with
    | .str s => Binary64.ofText? (Text.trim s.toList)
    | v => v.number?
  match number? with
  | some x => .ok x
  | none => c.mismatch .number

/-- A required member: absent and null are both missing. -/
def field (c : Cursor) (name : String) : Except SchemaError Cursor := do
  let _ ← c.asMembers
  match c.value.member? name with
  | none | some .null => throw (.missingField c.place name)
  | some v => return c.step (.key name) v

/-- An optional member: absent, null and a value that is no object all give `none`. -/
def get? (c : Cursor) (name : String) : Option Cursor :=
  match c.value.member? name with
  | none | some .null => none
  | some v => some (c.step (.key name) v)

/-- An optional member of an optional member, and so on. -/
def getPath? (c : Cursor) (names : List String) : Option Cursor := names.foldlM get? c

/-- The members of an object in document order, with their names. -/
def entries (c : Cursor) : Except SchemaError (List (String × Cursor)) := do
  let fields ← c.asMembers
  return fields.map fun (name, v) => (name, c.step (.key name) v)

def items (c : Cursor) : Except SchemaError (List Cursor) := do
  let items ← c.asArray
  return items.mapIdx fun i v => c.step (.index i) v

/-- The text of a string, number or truth value; truth values count as `1` and `0`. -/
def scalarText? (c : Cursor) : Option String :=
  match c.value with
  | .str s => some s
  | .bool b => some (if b then "1" else "0")
  | v@(.int _) | v@(.real _) => some v.leafText
  | _ => none

def text? (c : Cursor) (name : String) : Option String := (c.get? name).bind (·.value.text?)

theorem sizeOf_lt_of_get? {c d : Cursor} {name : String} (h : c.get? name = some d) :
    sizeOf d.value < sizeOf c.value := by
  unfold get? at h
  split at h
  · simp at h
  · simp at h
  · rename_i v _ hv
    obtain rfl := Option.some.inj h
    exact Json.sizeOf_lt_of_member? hv

theorem sizeOf_lt_of_mem_entries {c d : Cursor} {name : String} {list : List (String × Cursor)}
    (h : c.entries = .ok list) (hd : (name, d) ∈ list) : sizeOf d.value < sizeOf c.value := by
  unfold entries asMembers at h
  split at h
  · rename_i fields hf
    obtain rfl := Except.ok.inj h
    obtain ⟨⟨key, v⟩, hm, he⟩ := List.mem_map.1 hd
    obtain ⟨-, rfl⟩ := Prod.mk.inj he
    exact Json.sizeOf_lt_of_mem_members hf hm
  · simp [mismatch, bind, Except.bind] at h

theorem sizeOf_lt_of_mem_items {c d : Cursor} {list : List Cursor}
    (h : c.items = .ok list) (hd : d ∈ list) : sizeOf d.value < sizeOf c.value := by
  unfold items asArray at h
  split at h
  · rename_i items hi
    obtain rfl := Except.ok.inj h
    obtain ⟨i, hlt, rfl⟩ := List.mem_mapIdx.1 hd
    exact Json.sizeOf_lt_of_mem_items hi (List.getElem_mem hlt)
  · simp [mismatch, bind, Except.bind] at h

end Cursor

end ApiAtlas.Schema
