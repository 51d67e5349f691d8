import ApiAtlas.Descriptor.Method
import ApiAtlas.Proofs.Json.Fields
import ApiAtlas.Proofs.Schema.Cursors

/-!
# Reading descriptors

What the readers of properties and methods do, one check after the other.
-/

namespace ApiAtlas.Descriptor

open Checks Schema

/-! ## Parts of formats -/

/-- The type of a format, if it has one, is not the name of a format. -/
def IsInline (format : Json) : Prop :=
  ∀ s, format.member? "type" = some (.str s) → ¬ "pve-".toList <+: s.toList

theorem formatName?_eq_none_iff {format : Cursor} (h : Shape.object.Fits format.value) :
    formatName? format = none ↔ IsInline format.value := by
  obtain ⟨_, place⟩ := format
  cases h
  simp only [formatName?, Option.filter_eq_none_iff, Cursor.text?_eq_some_iff, IsInline,
    List.isPrefixOf_iff_prefix]

theorem mem_formatParts {format part : Cursor} {name : String} :
    (name, part) ∈ formatParts format ↔ IsInline format.value ∧
      ∃ v, format.value.member? name = some v ∧ Shape.object.Fits v ∧
        part = format.step (.key name) v := by
  by_cases hobject : Shape.object.Fits format.value
  · obtain ⟨fields, hfields⟩ := Shape.fits_object_iff.mp hobject
    have hentries := Cursor.entries_eq_ok.mpr ⟨fields, hfields, rfl⟩
    rw [← formatName?_eq_none_iff hobject, formatParts, hentries]
    cases formatName? format with
    | some found => exact iff_of_false nofun nofun
    | none =>
      simp only [List.mem_filter, List.mem_map, Cursor.isObject_iff, true_and]
      constructor
      · rintro ⟨⟨⟨key, v⟩, hv, heq⟩, hpart⟩
        obtain ⟨rfl, rfl⟩ := Prod.mk.inj heq
        exact ⟨v, (Json.mem_members_iff hfields).mp hv, hpart, rfl⟩
      · rintro ⟨v, hv, hpart, rfl⟩
        exact ⟨⟨(name, v), (Json.mem_members_iff hfields).mpr hv, rfl⟩, hpart⟩
  · have hentries := Cursor.entries_eq_error.mpr ⟨hobject, rfl⟩
    rw [formatParts, hentries]
    refine iff_of_false (by cases formatName? format <;> exact nofun) ?_
    rintro ⟨-, v, hv, -⟩
    exact hobject (Shape.fits_object_of_member? hv)

theorem mem_propertyParts {schema part : Cursor} {name : String} :
    (name, part) ∈ propertyParts schema ↔
      ∃ format, schema.get? "format" = some format ∧ (name, part) ∈ formatParts format := by
  unfold propertyParts
  cases schema.get? "format" <;> simp

/-! ## Readers as checks in a row -/

theorem ofProperty_eq (name : String) (schema : Cursor) :
    Parameter.ofProperty name schema = do
      let enumValues ← enumTexts schema
      let parts ← (propertyParts schema).mapM fun part => Parameter.ofProperty part.1 part.2
      let minimum ← bound? schema "minimum"
      let maximum ← bound? schema "maximum"
      return {
        wireName := name
        valueType := .ofName? (schema.text? "type")
        typeText := schema.text? "typetext"
        isOptional := (schema.get? "optional").bind Cursor.scalarText? == some "1"
        description := schema.text? "description"
        enumValues, parts, minimum, maximum
        formatName := (schema.get? "format").bind formatName?
        defaultText := (schema.get? "default").bind Cursor.scalarText?
        renderer := .ofHint (schema.text? "renderer") } := by
  rw [Parameter.ofProperty]
  simp only [List.mapM_subtype, List.unattach_attach]

def methodParameters (schema : Cursor) : Except SchemaError (List Parameter) :=
  match schema.getPath? ["parameters", "properties"] with
  | some properties => Parameter.ofProperties properties
  | none => .ok []

def methodReturns (schema : Cursor) : Except SchemaError Returns :=
  match schema.get? "returns" with
  | some returns => Returns.ofSchema returns
  | none => .ok .nothing

theorem ofSchema_eq (verb : Verb) (schema : Cursor) :
    Method.ofSchema verb schema = do
      let name ← (← schema.field "name").asText
      let parameters ← methodParameters schema
      let returns ← methodReturns schema
      return { verb, name, comment := schema.text? "description", parameters, returns } := by
  rw [Method.ofSchema, methodParameters, methodReturns]
  cases schema.getPath? ["parameters", "properties"] <;> cases schema.get? "returns" <;> rfl

theorem Method.verb_of_ofSchema {verb : Verb} {schema : Cursor} {m : Method}
    (h : Method.ofSchema verb schema = .ok m) : m.verb = verb := by
  simp only [ofSchema_eq, bind_eq_ok, pure, Except.pure, Except.ok.injEq] at h
  obtain ⟨_, -, name, -, parameters, -, returns, -, rfl⟩ := h
  rfl

end ApiAtlas.Descriptor
