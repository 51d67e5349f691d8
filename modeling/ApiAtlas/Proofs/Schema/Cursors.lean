import ApiAtlas.Proofs.Checks
import ApiAtlas.Schema.Cursor

/-!
# What cursors find

A member of an object is found by its name unless it is null. Where a value has not the shape that a
reader expects, the reader complains of just that, at the place of the value.
-/

namespace ApiAtlas.Schema

open Checks

/-- A value has a shape. A number may be written as a string, with blanks around it. -/
inductive Shape.Fits : Shape → Json → Prop
  | object (fields : Fields Json) : Fits .object (.obj fields)
  | array (items : List Json) : Fits .array (.arr items)
  | string (text : String) : Fits .string (.str text)
  | boolean (b : Bool) : Fits .boolean (.bool b)
  | int (n : Int) : Fits .number (.int n)
  | real (x : Binary64) : Fits .number (.real x)
  | numeral {text : String} {x : Binary64} :
      Binary64.ofText? (Text.trim text.toList) = some x → Fits .number (.str text)
  | document (items : List Json) : Fits .document (.arr items)

theorem Shape.fits_object_iff {v : Json} :
    Shape.object.Fits v ↔ ∃ fields, v.members? = some fields := by
  cases v with
  | obj fields => exact iff_of_true (.object fields) ⟨_, rfl⟩
  | _ => exact iff_of_false nofun nofun

theorem Shape.fits_object_of_member? {v w : Json} {name : String} (h : v.member? name = some w) :
    Shape.object.Fits v := by
  cases v with
  | obj fields => exact .object fields
  | _ => contradiction

theorem Shape.fits_array_iff {v : Json} : Shape.array.Fits v ↔ ∃ items, v.items? = some items := by
  cases v with
  | arr items => exact iff_of_true (.array items) ⟨items, rfl⟩
  | _ => exact iff_of_false nofun nofun

theorem Shape.fits_string_iff {v : Json} : Shape.string.Fits v ↔ ∃ s, v = .str s := by
  constructor
  · intro h
    cases h with
    | string s => exact ⟨s, rfl⟩
  · rintro ⟨s, rfl⟩
    exact .string s

theorem Shape.fits_boolean_iff {v : Json} : Shape.boolean.Fits v ↔ ∃ b, v = .bool b := by
  constructor
  · intro h
    cases h with
    | boolean b => exact ⟨b, rfl⟩
  · rintro ⟨b, rfl⟩
    exact .boolean b

theorem Shape.fits_number_iff {v : Json} : Shape.number.Fits v ↔
    (∃ x, v.number? = some x) ∨
      ∃ text x, v = .str text ∧ Binary64.ofText? (Text.trim text.toList) = some x := by
  constructor
  · intro h
    cases h with
    | int n => exact .inl ⟨_, rfl⟩
    | real x => exact .inl ⟨x, rfl⟩
    | numeral hx => exact .inr ⟨_, _, rfl, hx⟩
  · rintro (⟨x, hx⟩ | ⟨text, x, rfl, hx⟩)
    · cases v with
      | int n => exact .int n
      | real x => exact .real x
      | _ => contradiction
    · exact .numeral hx

theorem Location.get?_singleton (v : Json) (step : Step) : get? v [step] = step.apply? v := by
  simp [get?]

/-- A value other than null stands in another behind the members with given names. -/
def GivenAt (v : Json) (names : List String) (w : Json) : Prop :=
  Location.get? v (names.map .key) = some w ∧ w ≠ .null

theorem givenAt_singleton {v w : Json} {name : String} :
    GivenAt v [name] w ↔ v.member? name = some w ∧ w ≠ .null := by
  rw [GivenAt, List.map_singleton, Location.get?_singleton, Step.apply?]

theorem givenAt_cons_cons {v w : Json} {outer inner : String} {names : List String} :
    GivenAt v (outer :: inner :: names) w ↔
      ∃ u, GivenAt v [outer] u ∧ GivenAt u (inner :: names) w := by
  have hstep : Location.get? v ((outer :: inner :: names).map .key) =
      (v.member? outer).bind (Location.get? · ((inner :: names).map .key)) := rfl
  simp only [givenAt_singleton]
  simp only [GivenAt, hstep, Option.bind_eq_some_iff]
  constructor
  · rintro ⟨⟨u, hu, hget⟩, hw⟩
    refine ⟨u, ⟨hu, ?_⟩, hget, hw⟩
    rintro rfl
    exact nomatch hget
  · rintro ⟨u, ⟨hu, -⟩, hget, hw⟩
    exact ⟨⟨u, hu, hget⟩, hw⟩

namespace Cursor

variable {c : Cursor} {e : SchemaError}

/-! ## What is found -/

theorem isObject_iff : c.isObject = true ↔ Shape.object.Fits c.value := by
  rw [Shape.fits_object_iff, isObject, Option.isSome_iff_exists]

theorem get?_eq_some_iff {name : String} {d : Cursor} :
    c.get? name = some d ↔ ∃ v, c.value.member? name = some v ∧ v ≠ .null ∧
      d = c.step (.key name) v := by
  unfold get?
  cases c.value.member? name with
  | none => exact iff_of_false nofun nofun
  | some v => cases v <;> simp [eq_comm]

theorem get?_eq_none_iff {name : String} :
    c.get? name = none ↔ c.value.member? name = none ∨ c.value.member? name = some .null := by
  unfold get?
  cases c.value.member? name with
  | none => simp
  | some v => cases v <;> simp

/-- What holds of a found member holds of a given value. -/
theorem exists_get?_iff {name : String} {P : Json → Prop} :
    (∃ d, c.get? name = some d ∧ P d.value) ↔ ∃ w, GivenAt c.value [name] w ∧ P w := by
  simp only [get?_eq_some_iff, givenAt_singleton]
  constructor
  · rintro ⟨d, ⟨v, hv, hnull, rfl⟩, hd⟩
    exact ⟨v, ⟨hv, hnull⟩, hd⟩
  · rintro ⟨v, ⟨hv, hnull⟩, h⟩
    exact ⟨_, ⟨v, hv, hnull, rfl⟩, h⟩

theorem getPath?_eq_some_iff {outer inner : String} {d : Cursor} :
    c.getPath? [outer, inner] = some d ↔ ∃ u, c.get? outer = some u ∧ u.get? inner = some d := by
  simp [getPath?, Option.bind_eq_some_iff]

theorem exists_getPath?_iff {outer inner : String} {P : Json → Prop} :
    (∃ d, c.getPath? [outer, inner] = some d ∧ P d.value) ↔
      ∃ w, GivenAt c.value [outer, inner] w ∧ P w := by
  simp only [getPath?_eq_some_iff, get?_eq_some_iff, givenAt_cons_cons, givenAt_singleton]
  constructor
  · rintro ⟨d, ⟨u, ⟨v, hv, hvnull, rfl⟩, w, hw, hwnull, rfl⟩, hP⟩
    exact ⟨w, ⟨v, ⟨hv, hvnull⟩, hw, hwnull⟩, hP⟩
  · rintro ⟨w, ⟨v, ⟨hv, hvnull⟩, hw, hwnull⟩, hP⟩
    exact ⟨_, ⟨_, ⟨v, hv, hvnull, rfl⟩, w, hw, hwnull, rfl⟩, hP⟩

theorem text?_eq_some_iff {name text : String} :
    c.text? name = some text ↔ c.value.member? name = some (.str text) := by
  rw [text?, Option.bind_eq_some_iff]
  constructor
  · rintro ⟨d, hd, htext⟩
    obtain ⟨v, hv, -, rfl⟩ := get?_eq_some_iff.mp hd
    cases v with
    | str s => exact Option.some.inj htext ▸ hv
    | _ => contradiction
  · intro h
    exact ⟨_, get?_eq_some_iff.mpr ⟨_, h, nofun, rfl⟩, rfl⟩

/-- A required member is an optional one that an object has. -/
theorem field_eq {name : String} :
    c.field name = if c.isObject then
      match c.get? name with
      | some d => .ok d
      | none => .error (.missingField c.place name)
    else c.mismatch .object := by
  unfold Cursor.field Cursor.asMembers Cursor.isObject Cursor.get?
  cases c.value.members? with
  | none => rfl
  | some fields =>
    cases c.value.member? name with
    | none => rfl
    | some v => cases v <;> rfl

theorem field_eq_ok {name : String} {d : Cursor} :
    c.field name = .ok d ↔ c.get? name = some d := by
  rw [field_eq]
  cases hd : c.get? name with
  | none => cases c.isObject <;> exact iff_of_false nofun nofun
  | some found =>
    obtain ⟨v, hv, -, -⟩ := get?_eq_some_iff.mp hd
    simp [isObject_iff.mpr (Shape.fits_object_of_member? hv)]

theorem asText_eq_ok {text : String} : c.asText = .ok text ↔ c.value = .str text := by
  unfold asText
  cases c.value <;> simp [mismatch]

theorem entries_eq_ok {entries : List (String × Cursor)} :
    c.entries = .ok entries ↔ ∃ fields, c.value.members? = some fields ∧
      entries = fields.map fun field => (field.1, c.step (.key field.1) field.2) := by
  unfold Cursor.entries Cursor.asMembers
  cases c.value.members? with
  | none => simp [Cursor.mismatch, bind, Except.bind]
  | some fields => simp [bind, Except.bind, pure, Except.pure, eq_comm]

theorem items_eq_ok {list : List Cursor} :
    c.items = .ok list ↔ ∃ items, c.value.items? = some items ∧
      list = items.mapIdx fun i v => c.step (.index i) v := by
  unfold items asArray
  cases c.value.items? with
  | none => simp [mismatch, bind, Except.bind]
  | some items => simp [bind, Except.bind, pure, Except.pure, eq_comm]

/-! ## What is complained of -/

theorem asMembers_eq_error :
    c.asMembers = .error e ↔
      ¬ Shape.object.Fits c.value ∧ .unexpectedShape c.place .object = e := by
  rw [Shape.fits_object_iff, asMembers]
  cases c.value.members? <;> simp [mismatch]

theorem asArray_eq_error :
    c.asArray = .error e ↔ ¬ Shape.array.Fits c.value ∧ .unexpectedShape c.place .array = e := by
  rw [Shape.fits_array_iff, asArray]
  cases c.value.items? <;> simp [mismatch]

theorem asText_eq_error :
    c.asText = .error e ↔ ¬ Shape.string.Fits c.value ∧ .unexpectedShape c.place .string = e := by
  rw [Shape.fits_string_iff, asText]
  cases c.value <;> simp [mismatch]

theorem asBool_eq_error :
    c.asBool = .error e ↔ ¬ Shape.boolean.Fits c.value ∧ .unexpectedShape c.place .boolean = e := by
  rw [Shape.fits_boolean_iff, asBool]
  cases c.value <;> simp [mismatch]

theorem asNumber_eq_error :
    c.asNumber = .error e ↔ ¬ Shape.number.Fits c.value ∧ .unexpectedShape c.place .number = e := by
  rw [Shape.fits_number_iff, asNumber]
  cases c.value with
  | str text => cases hx : Binary64.ofText? (Text.trim text.toList) <;>
      simp [hx, mismatch, Json.number?]
  | _ => simp [mismatch, Json.number?]

theorem entries_eq_error :
    c.entries = .error e ↔ ¬ Shape.object.Fits c.value ∧ .unexpectedShape c.place .object = e := by
  rw [← asMembers_eq_error, entries, bind_eq_error]
  exact or_iff_left nofun

theorem items_eq_error :
    c.items = .error e ↔ ¬ Shape.array.Fits c.value ∧ .unexpectedShape c.place .array = e := by
  rw [← asArray_eq_error, items, bind_eq_error]
  exact or_iff_left nofun

theorem fails_asNumber : Fails c.asNumber ↔ ¬ Shape.number.Fits c.value :=
  fails_iff asNumber_eq_error

/-- Each reader complains exactly of its own shape. -/
theorem fails_readers :
    (Fails c.asMembers ↔ ¬ Shape.object.Fits c.value) ∧
      (Fails c.asArray ↔ ¬ Shape.array.Fits c.value) ∧
      (Fails c.asText ↔ ¬ Shape.string.Fits c.value) ∧
      (Fails c.asBool ↔ ¬ Shape.boolean.Fits c.value) ∧
      (Fails c.asNumber ↔ ¬ Shape.number.Fits c.value) :=
  ⟨fails_iff asMembers_eq_error, fails_iff asArray_eq_error, fails_iff asText_eq_error,
    fails_iff asBool_eq_error, fails_asNumber⟩

theorem fails_entries : Fails c.entries ↔ ¬ Shape.object.Fits c.value :=
  fails_iff entries_eq_error

theorem fails_items : Fails c.items ↔ ¬ Shape.array.Fits c.value := fails_iff items_eq_error

theorem field_eq_error {name : String} :
    c.field name = .error e ↔
      (¬ Shape.object.Fits c.value ∧ .unexpectedShape c.place .object = e) ∨
        (Shape.object.Fits c.value ∧ c.get? name = none ∧ .missingField c.place name = e) := by
  rw [field_eq, ← isObject_iff]
  cases c.isObject <;> cases c.get? name <;> simp [mismatch]

end Cursor

end ApiAtlas.Schema
