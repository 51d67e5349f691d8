import ApiAtlas.Binary64.Text

/-!
# JSON values

A value keeps the fields of an object as they were written. A name that is written twice means its
last value at the place of the first, so an object is looked at through `Fields.find?` and
`Fields.resolve`, which agree on that.
-/

namespace ApiAtlas

/-- Named values in written order. -/
abbrev Fields (α : Type) := List (String × α)

namespace Fields

variable {α β : Type}

/-- Sets a name: one that is there keeps its place, a new one comes last. -/
def put (name : String) (value : α) : Fields α → Fields α
  | [] => [(name, value)]
  | (key, old) :: rest =>
    if key = name then (key, value) :: rest else (key, old) :: put name value rest

/-- Each name once, at the place of its first field and with the value of its last. -/
def resolve (fields : Fields α) : Fields α :=
  fields.foldl (fun done field => put field.1 field.2 done) []

/-- The value of the last field of a name. -/
def find? (name : String) : Fields α → Option α
  | [] => none
  | (key, value) :: rest => (find? name rest).or (if key = name then some value else none)

@[simp] theorem find?_nil (name : String) : find? name ([] : Fields α) = none := rfl

theorem find?_append (name : String) (xs ys : Fields α) :
    find? name (xs ++ ys) = (find? name ys).or (find? name xs) := by
  induction xs with
  | nil => simp
  | cons x xs ih => simp [find?, ih, Option.or_assoc]

theorem mem_of_find? {name : String} {value : α} {fields : Fields α}
    (h : find? name fields = some value) : (name, value) ∈ fields := by
  induction fields with
  | nil => simp at h
  | cons x xs ih =>
    obtain ⟨key, old⟩ := x
    rw [find?, Option.or_eq_some_iff] at h
    rcases h with h | ⟨-, h⟩
    · exact List.mem_cons_of_mem _ (ih h)
    · split at h <;> simp_all

theorem mem_put {name : String} {value : α} {fields : Fields α} {field : String × α}
    (h : field ∈ put name value fields) : field = (name, value) ∨ field ∈ fields := by
  induction fields with
  | nil => simpa [put] using h
  | cons x xs ih =>
    rw [put] at h
    split at h
    · rcases List.mem_cons.1 h with h | h
      · exact .inl (by simp_all)
      · exact .inr (List.mem_cons_of_mem _ h)
    · rcases List.mem_cons.1 h with h | h
      · exact .inr (by simp_all)
      · exact (ih h).imp_right (List.mem_cons_of_mem _)

theorem mem_of_mem_resolve {fields : Fields α} {field : String × α}
    (h : field ∈ resolve fields) : field ∈ fields := by
  have go : ∀ (rest done : Fields α),
      field ∈ rest.foldl (fun done x => put x.1 x.2 done) done → field ∈ rest ∨ field ∈ done := by
    intro rest
    induction rest with
    | nil => intro done h; exact .inr h
    | cons x xs ih =>
      intro done h
      rcases ih _ h with h | h
      · exact .inl (List.mem_cons_of_mem _ h)
      · rcases mem_put h with h | h
        · exact .inl (by simp [h])
        · exact .inr h
  simpa using go fields [] h

end Fields

inductive Json where
  | null
  | bool (value : Bool)
  /-- A number without fraction or exponent that fits 64 bits. -/
  | int (value : Int)
  /-- Any other number. -/
  | real (value : Binary64)
  | str (text : String)
  | arr (items : List Json)
  | obj (fields : List (String × Json))
  deriving Repr, BEq, Inhabited

namespace Json

/-- The members of an object, each name once; `none` for any other value. -/
def members? : Json → Option (Fields Json)
  | .obj fields => some (Fields.resolve fields)
  | _ => none

/-- The member of an object with a name; `none` for any other value. -/
def member? (name : String) : Json → Option Json
  | .obj fields => Fields.find? name fields
  | _ => none

def items? : Json → Option (List Json)
  | .arr items => some items
  | _ => none

def text? : Json → Option String
  | .str text => some text
  | _ => none

def number? : Json → Option Binary64
  | .int n => some (Binary64.ofInt n)
  | .real x => some x
  | _ => none

/-- A number of the format, or null for infinity and not-a-number, which JSON cannot write. -/
def ofBinary64 : Binary64 → Json
  | x@(.finite ..) => .real x
  | _ => .null

def ofText? : Option String → Json
  | some text => .str text
  | none => .null

theorem sizeOf_lt_of_member? {name : String} {v w : Json} (h : v.member? name = some w) :
    sizeOf w < sizeOf v := by
  cases v with
  | obj fields =>
    have := List.sizeOf_lt_of_mem (Fields.mem_of_find? h)
    simp only [Prod.mk.sizeOf_spec, obj.sizeOf_spec] at *
    omega
  | _ => simp [member?] at h

theorem sizeOf_lt_of_mem_members {fields : Fields Json} {v w : Json} {key : String}
    (h : v.members? = some fields) (hw : (key, w) ∈ fields) : sizeOf w < sizeOf v := by
  cases v with
  | obj raw =>
    obtain rfl : Fields.resolve raw = fields := by simpa [members?] using h
    have := List.sizeOf_lt_of_mem (Fields.mem_of_mem_resolve hw)
    simp only [Prod.mk.sizeOf_spec, obj.sizeOf_spec] at *
    omega
  | _ => simp [members?] at h

theorem sizeOf_lt_of_mem_items {items : List Json} {v w : Json}
    (h : v.items? = some items) (hw : w ∈ items) : sizeOf w < sizeOf v := by
  cases v with
  | arr raw =>
    obtain rfl : raw = items := by simpa [items?] using h
    have := List.sizeOf_lt_of_mem hw
    simp only [arr.sizeOf_spec] at *
    omega
  | _ => simp [items?] at h

end Json

end ApiAtlas
