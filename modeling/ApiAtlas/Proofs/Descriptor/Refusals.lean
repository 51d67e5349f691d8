import ApiAtlas.Proofs.Descriptor.Reading

/-!
# Descriptions that are refused

The readers of descriptions pass over much that is absent or of another shape, and complain of the
rest. What they complain of is told here of the described values alone, and shown to be exactly what
the readers refuse.
-/

namespace ApiAtlas.Descriptor

open Checks Schema

/-! ## Bad values -/

/-- A property that cannot be read, for its own members or for a part of its format. -/
inductive BadProperty : Json → Prop
  | enum {v values : Json} (hvalues : GivenAt v ["enum"] values)
      (hshape : ¬ Shape.array.Fits values) : BadProperty v
  | bound {v limit : Json} {name : String} (hname : name = "minimum" ∨ name = "maximum")
      (hlimit : GivenAt v [name] limit) (hshape : ¬ Shape.number.Fits limit) : BadProperty v
  | part {v format part : Json} {name : String} (hformat : GivenAt v ["format"] format)
      (hinline : IsInline format) (hpart : format.member? name = some part)
      (hshape : Shape.object.Fits part) (hbad : BadProperty part) : BadProperty v

/-- A value that is no object, or an object with a bad property among its members. -/
def BadProperties (v : Json) : Prop :=
  ¬ Shape.object.Fits v ∨ ∃ name p, v.member? name = some p ∧ BadProperty p

/-- A description of what is returned that cannot be read. The properties of items count only where
there are no properties beside them. -/
def BadReturns (v : Json) : Prop :=
  (∃ links, GivenAt v ["links"] links ∧ ¬ Shape.array.Fits links) ∨
  (∃ properties, GivenAt v ["properties"] properties ∧ BadProperties properties) ∨
  (¬ ∃ properties, GivenAt v ["properties"] properties) ∧
    ∃ properties, GivenAt v ["items", "properties"] properties ∧ BadProperties properties

/-! ## Properties -/

variable {c : Cursor}

theorem fails_enumTexts :
    Fails (enumTexts c) ↔ ∃ w, GivenAt c.value ["enum"] w ∧ ¬ Shape.array.Fits w := by
  rw [← Cursor.exists_get?_iff, enumTexts]
  cases c.get? "enum" with
  | none => simp
  | some values =>
    rw [fails_bind_pure, Cursor.fails_items]
    simp

theorem fails_bound? {name : String} :
    Fails (bound? c name) ↔ ∃ w, GivenAt c.value [name] w ∧ ¬ Shape.number.Fits w := by
  rw [← Cursor.exists_get?_iff, bound?]
  cases c.get? name with
  | none => simp
  | some value => simp [fails_map, Cursor.fails_asNumber]

theorem exists_mem_propertyParts {P : Json → Prop} :
    (∃ entry ∈ propertyParts c, P entry.2.value) ↔
      ∃ format, GivenAt c.value ["format"] format ∧ IsInline format ∧
        ∃ name part, format.member? name = some part ∧ Shape.object.Fits part ∧ P part := by
  rw [← Cursor.exists_get?_iff]
  constructor
  · rintro ⟨⟨name, part⟩, hpart, hP⟩
    obtain ⟨format, hformat, hpart⟩ := mem_propertyParts.mp hpart
    obtain ⟨hinline, v, hv, hshape, rfl⟩ := mem_formatParts.mp hpart
    exact ⟨format, hformat, hinline, name, v, hv, hshape, hP⟩
  · rintro ⟨format, hformat, hinline, name, v, hv, hshape, hP⟩
    have hpart := mem_formatParts.mpr ⟨hinline, v, hv, hshape, rfl⟩
    exact ⟨_, mem_propertyParts.mpr ⟨format, hformat, hpart⟩, hP⟩

/-- A property is refused just if it is bad, wherever it stands and whatever its name is. -/
theorem fails_ofProperty (name : String) (c : Cursor) :
    Fails (Parameter.ofProperty name c) ↔ BadProperty c.value := by
  have hparts : Fails ((propertyParts c).mapM fun part => Parameter.ofProperty part.1 part.2) ↔
      ∃ entry ∈ propertyParts c, BadProperty entry.2.value := by
    rw [fails_mapM]
    exact exists_congr fun part => and_congr_right fun _ => fails_ofProperty part.1 part.2
  rw [ofProperty_eq, fails_bind fun _ _ => fails_bind fun _ _ => fails_bind fun _ _ =>
    fails_bind_pure, hparts, exists_mem_propertyParts, fails_enumTexts, fails_bound?, fails_bound?]
  constructor
  · rintro (⟨values, hvalues, hshape⟩ |
      ⟨format, hformat, hinline, name, part, hpart, hshape, hbad⟩ |
      ⟨limit, hlimit, hshape⟩ | ⟨limit, hlimit, hshape⟩)
    · exact .enum hvalues hshape
    · exact .part hformat hinline hpart hshape hbad
    · exact .bound (.inl rfl) hlimit hshape
    · exact .bound (.inr rfl) hlimit hshape
  · rintro (⟨hvalues, hshape⟩ | ⟨rfl | rfl, hlimit, hshape⟩ |
      ⟨hformat, hinline, hpart, hshape, hbad⟩)
    · exact .inl ⟨_, hvalues, hshape⟩
    · exact .inr (.inr (.inl ⟨_, hlimit, hshape⟩))
    · exact .inr (.inr (.inr ⟨_, hlimit, hshape⟩))
    · exact .inr (.inl ⟨_, hformat, hinline, _, _, hpart, hshape, hbad⟩)
termination_by sizeOf c.value
decreasing_by exact sizeOf_lt_of_mem_propertyParts ‹_›

theorem fails_ofProperties : Fails (Parameter.ofProperties c) ↔ BadProperties c.value := by
  rw [Parameter.ofProperties, BadProperties, ← Cursor.fails_entries]
  refine fails_bind fun entries hentries => ?_
  obtain ⟨fields, hfields, rfl⟩ := Cursor.entries_eq_ok.mp hentries
  simp [fails_mapM, fails_ofProperty, Cursor.step, ← Json.mem_members_iff hfields]

/-! ## Methods -/

theorem fails_linkKeyOf :
    Fails (linkKeyOf c) ↔ ∃ links, GivenAt c.value ["links"] links ∧ ¬ Shape.array.Fits links := by
  rw [← Cursor.exists_get?_iff, linkKeyOf]
  cases c.get? "links" with
  | none => simp
  | some links =>
    rw [fails_bind_pure, Cursor.fails_items]
    simp

theorem fails_returns : Fails (Returns.ofSchema c) ↔ BadReturns c.value := by
  have hproperties :
      (∃ p, GivenAt c.value ["properties"] p) ↔ ∃ d, c.get? "properties" = some d := by
    simpa using (Cursor.exists_get?_iff (P := fun _ => True)).symm
  rw [Returns.ofSchema, BadReturns, ← fails_linkKeyOf, hproperties, ← Cursor.exists_get?_iff,
    ← Cursor.exists_getPath?_iff]
  refine fails_bind fun key _ => ?_
  cases c.get? "properties" with
  | some properties =>
    rw [fails_bind_pure, fails_ofProperties]
    simp
  | none =>
    cases c.getPath? ["items", "properties"] with
    | some properties =>
      rw [fails_bind_pure, fails_ofProperties]
      simp
    | none => exact iff_of_false (not_fails_ok _) (by simp)

theorem fails_methodParameters :
    Fails (methodParameters c) ↔
      ∃ p, GivenAt c.value ["parameters", "properties"] p ∧ BadProperties p := by
  rw [← Cursor.exists_getPath?_iff, methodParameters]
  cases c.getPath? ["parameters", "properties"] with
  | none => simp
  | some properties => simp [fails_ofProperties]

theorem fails_methodReturns :
    Fails (methodReturns c) ↔ ∃ r, GivenAt c.value ["returns"] r ∧ BadReturns r := by
  rw [← Cursor.exists_get?_iff, methodReturns]
  cases c.get? "returns" with
  | none => simp
  | some returns => simp [fails_returns]

theorem fails_name :
    Fails (c.field "name" >>= Cursor.asText) ↔ ∀ s, c.value.member? "name" ≠ some (.str s) := by
  rw [← not_iff_not, not_fails_iff]
  simp only [bind_eq_ok, Cursor.field_eq_ok, Cursor.asText_eq_ok, Cursor.get?_eq_some_iff,
    not_forall, not_not]
  refine exists_congr fun s => ⟨?_, fun h => ⟨_, ⟨_, h, by simp, rfl⟩, rfl⟩⟩
  rintro ⟨d, ⟨v, hv, -, rfl⟩, rfl⟩
  exact hv

/-- A description of a method is refused for its own shape, for its name, for what its parameters
are or for what it returns, and for nothing else. -/
theorem Method.ofSchema_refuses_iff (verb : Verb) (c : Cursor) :
    (∃ e, Method.ofSchema verb c = .error e) ↔
      ¬ Shape.object.Fits c.value ∨
      (∀ s, c.value.member? "name" ≠ some (.str s)) ∨
      (∃ p, GivenAt c.value ["parameters", "properties"] p ∧ BadProperties p) ∨
      ∃ r, GivenAt c.value ["returns"] r ∧ BadReturns r := by
  have hname : ¬ Shape.object.Fits c.value → ∀ s, c.value.member? "name" ≠ some (.str s) :=
    fun hobject _ hs => hobject (Shape.fits_object_of_member? hs)
  change Fails _ ↔ _
  rw [← or_assoc, or_iff_right_of_imp hname, ← fails_name, ← fails_methodParameters,
    ← fails_methodReturns, ofSchema_eq, ← bind_assoc]
  exact fails_bind fun _ _ => fails_bind fun _ _ => fails_bind_pure

end ApiAtlas.Descriptor
