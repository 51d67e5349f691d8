import ApiAtlas.Proofs.Json.Fields
import ApiAtlas.Proofs.Schema.Cursors

/-!
# What is said of a document

Every value that a reader looks at stands in the document at the place that its cursor carries, so
that what the reader complains of is true of the value there.
-/

namespace ApiAtlas.Schema

open Checks

/-- The place that an error names; a text that is no JSON has no places. -/
def SchemaError.place? : SchemaError → Option Location
  | .malformed => none
  | .unexpectedShape place _ | .missingField place _ => some place

/-- What an error says of the value at its place. -/
def SchemaError.SaysOf : SchemaError → Json → Prop
  | .malformed, _ => False
  | .unexpectedShape _ expected, v => ¬ expected.Fits v
  | .missingField _ name, v =>
    Shape.object.Fits v ∧ (v.member? name = none ∨ v.member? name = some .null)

/-- An error says what is so at its place in a document. -/
def SchemaError.TrueOf (document : Json) (e : SchemaError) : Prop :=
  ∃ place v, e.place? = some place ∧ Location.get? document place = some v ∧ e.SaysOf v

variable {document : Json}

namespace Cursor

/-! ## Cursors in a document -/

/-- A cursor shows the value at its place in a document. -/
def In (document : Json) (c : Cursor) : Prop := Location.get? document c.place = some c.value

variable {c d : Cursor} {name : String}

theorem in_root (document : Json) : In document { value := document } := rfl

theorem In.step (h : c.In document) {step : Step} {v : Json} (hv : step.apply? c.value = some v) :
    (c.step step v).In document := by
  have hplace : Location.get? document c.place = some c.value := h
  rw [In, Cursor.step, Location.get?_append, hplace, Option.bind_some, Location.get?_singleton, hv]

theorem In.get? (h : c.In document) (hd : c.get? name = some d) : d.In document := by
  obtain ⟨v, hv, -, rfl⟩ := get?_eq_some_iff.mp hd
  exact h.step hv

theorem In.getPath? (h : c.In document) {outer inner : String}
    (hd : c.getPath? [outer, inner] = some d) : d.In document := by
  obtain ⟨u, hu, hd⟩ := getPath?_eq_some_iff.mp hd
  exact (h.get? hu).get? hd

theorem In.entry (h : c.In document) {entries : List (String × Cursor)}
    (hentries : c.entries = .ok entries) (hd : (name, d) ∈ entries) : d.In document := by
  obtain ⟨fields, hfields, rfl⟩ := entries_eq_ok.mp hentries
  obtain ⟨⟨key, v⟩, hv, heq⟩ := List.mem_map.mp hd
  obtain ⟨rfl, rfl⟩ := Prod.mk.inj heq
  exact h.step ((Json.mem_members_iff hfields).mp hv)

theorem In.item (h : c.In document) {items : List Cursor} (hitems : c.items = .ok items)
    (hd : d ∈ items) : d.In document := by
  obtain ⟨values, hvalues, rfl⟩ := items_eq_ok.mp hitems
  obtain ⟨i, hi, rfl⟩ := List.mem_mapIdx.mp hd
  exact h.step (by simp [hvalues, hi, Step.apply?])

/-! ## Complaints of cursors -/

/-- What is complained of a shape is true where the cursor shows what is in the document. -/
theorem In.failsOnly {α : Type} (h : c.In document) {shape : Shape} {x : Except SchemaError α}
    (hx : ∀ {e}, x = .error e ↔ ¬ shape.Fits c.value ∧ .unexpectedShape c.place shape = e) :
    FailsOnly (SchemaError.TrueOf document) x := fun e he => by
  obtain ⟨hshape, rfl⟩ := hx.mp he
  exact ⟨c.place, c.value, rfl, h, hshape⟩

theorem In.failsOnly_field (h : c.In document) (name : String) :
    FailsOnly (SchemaError.TrueOf document) (c.field name) := fun e he => by
  rcases field_eq_error.mp he with ⟨hshape, rfl⟩ | ⟨hshape, hmissing, rfl⟩
  · exact ⟨c.place, c.value, rfl, h, hshape⟩
  · exact ⟨c.place, c.value, rfl, h, hshape, get?_eq_none_iff.mp hmissing⟩

end Cursor

end ApiAtlas.Schema
