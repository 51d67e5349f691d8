import ApiAtlas.Descriptor.Parameter

/-!
# Request fields

The fields of a request: values by wire name, sorted by name. A family of fields is set from a map
of numbers and is found again by its stem and a run of digits.
-/

namespace ApiAtlas.Request

open Descriptor

/-- What a field can be set to; only a value that is there is sent. -/
inductive ParamValue where
  | absent
  | bool (b : Bool)
  | int (n : Int)
  | text (s : String)
  deriving DecidableEq, Repr

def ParamValue.wireText? : ParamValue → Option String
  | .absent => none
  | .bool b => some (if b then "1" else "0")
  | .int n => some (toString n)
  | .text s => some s

/-- Fields sorted by name, each name once. -/
structure Params where
  fields : List (String × String) := []
  deriving DecidableEq, Repr

namespace Params

/-- Puts a value at its place among sorted fields. -/
def place (name value : String) : List (String × String) → List (String × String)
  | [] => [(name, value)]
  | (key, old) :: rest =>
    if name < key then (name, value) :: (key, old) :: rest
    else if name = key then (name, value) :: rest
    else (key, old) :: place name value rest

theorem lookup_place_self (name value : String) (fields : List (String × String)) :
    (place name value fields).lookup name = some value := by
  induction fields with
  | nil => simp [place]
  | cons field rest ih =>
    obtain ⟨key, old⟩ := field
    by_cases hlt : name < key
    · simp [place, hlt]
    · by_cases heq : name = key
      · rw [place, if_neg hlt, if_pos heq]
        simp
      · have hne : (name == key) = false := beq_false_of_ne heq
        simp [place, hlt, heq, List.lookup_cons, hne, ih]

theorem lookup_place_of_ne {name other : String} (h : other ≠ name) (value : String)
    (fields : List (String × String)) :
    (place name value fields).lookup other = fields.lookup other := by
  have hne : (other == name) = false := beq_false_of_ne h
  induction fields with
  | nil => simp [place, List.lookup_cons, hne]
  | cons field rest ih =>
    obtain ⟨key, old⟩ := field
    by_cases hlt : name < key
    · simp [place, hlt, List.lookup_cons, hne]
    · by_cases heq : name = key
      · rw [place, if_neg hlt, if_pos heq, ← heq]
        simp [List.lookup_cons, hne]
      · simp [place, hlt, heq, List.lookup_cons, ih]

def insert (ps : Params) (name value : String) : Params := ⟨place name value ps.fields⟩

/-- Sets a field; an absent value leaves the fields as they are. -/
def set (ps : Params) (name : String) (value : ParamValue) : Params :=
  match value.wireText? with
  | some text => ps.insert name text
  | none => ps

def familyField (wireName : String) (index : Nat) : String :=
  familyStem wireName ++ toString index

/-- Sets the fields of a family; no map at all sets none. -/
def setIndexed (ps : Params) (wireName : String) (values : Option (List (Nat × String))) : Params :=
  (values.getD []).foldl (fun ps (index, value) => ps.insert (familyField wireName index) value) ps

/-- Whether a field is the stem of a family and at least one digit. -/
def isFamilyField (wireName field : String) : Bool :=
  match (familyStem wireName).toList.isPrefixOf? field.toList with
  | some index => !index.isEmpty && index.all Char.isDigit
  | none => false

/-- Whether any field of a family is there. -/
def hasFamily (ps : Params) (wireName : String) : Bool :=
  ps.fields.any fun (field, _) => isFamilyField wireName field

def get? (ps : Params) (name : String) : Option String := ps.fields.lookup name

@[simp] theorem get?_insert_self (ps : Params) (name value : String) :
    (ps.insert name value).get? name = some value :=
  lookup_place_self name value ps.fields

theorem get?_insert_of_ne (ps : Params) {name other : String} (h : other ≠ name) (value : String) :
    (ps.insert name value).get? other = ps.get? other :=
  lookup_place_of_ne h value ps.fields

def size (ps : Params) : Nat := ps.fields.length

def isEmpty (ps : Params) : Bool := ps.fields.isEmpty

end Params

end ApiAtlas.Request
