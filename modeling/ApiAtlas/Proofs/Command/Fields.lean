import ApiAtlas.Command.Explore
import Mathlib.Data.List.Basic

/-!
# Fields of calls

The fields of a call hold the last value that its words give for each name, and no name twice.
-/

namespace ApiAtlas.Request.Params

open Descriptor

/-! ## Sorted fields -/

/-- Whether fields are sorted by name, with each name once. -/
def Sorted (fields : List (String × String)) : Prop := fields.Pairwise (·.1 < ·.1)

theorem mem_place {name value : String} {fields : List (String × String)}
    {field : String × String} (h : field ∈ place name value fields) :
    field.1 = name ∨ field ∈ fields := by
  induction fields with
  | nil => exact .inl (congrArg Prod.fst (List.mem_singleton.mp h))
  | cons first rest ih =>
    rw [place] at h
    split at h
    · rcases List.mem_cons.mp h with rfl | h
      · exact .inl rfl
      · exact .inr h
    split at h
    · rcases List.mem_cons.mp h with rfl | h
      · exact .inl rfl
      · exact .inr (List.mem_cons_of_mem _ h)
    · rcases List.mem_cons.mp h with rfl | h
      · exact .inr List.mem_cons_self
      · exact (ih h).imp_right (List.mem_cons_of_mem _)

theorem sorted_place {fields : List (String × String)} (h : Sorted fields) (name value : String) :
    Sorted (place name value fields) := by
  induction fields with
  | nil => exact List.pairwise_singleton _ _
  | cons first rest ih =>
    obtain ⟨hfirst, hrest⟩ := List.pairwise_cons.mp h
    rw [place]
    split
    · rename_i hlt
      refine List.pairwise_cons.mpr ⟨fun field hfield => ?_, h⟩
      rcases List.mem_cons.mp hfield with rfl | hfield
      · exact hlt
      · exact String.lt_trans hlt (hfirst field hfield)
    split
    · rename_i heq
      exact List.pairwise_cons.mpr ⟨fun field hfield => heq ▸ hfirst field hfield, hrest⟩
    · rename_i hle hne
      have hlt : first.1 < name := by
        refine Classical.byContradiction fun hge => ?_
        exact hne (String.le_antisymm (String.not_lt.mp hge) (String.not_lt.mp hle))
      refine List.pairwise_cons.mpr ⟨fun field hfield => ?_, ih hrest⟩
      rcases mem_place hfield with rfl | hfield
      · exact hlt
      · exact hfirst field hfield

theorem mem_names_iff {fields : List (String × String)} {name : String} :
    name ∈ fields.map (·.1) ↔ (fields.lookup name).isSome = true := by
  rw [List.lookup_isSome_iff, List.mem_map]
  simp only [beq_iff_eq]
  exact exists_congr fun field => and_congr_right' eq_comm

theorem Sorted.nodup {fields : List (String × String)} (h : Sorted fields) :
    (fields.map (·.1)).Nodup := by
  refine List.pairwise_map.mpr (h.imp fun hlt heq => ?_)
  exact String.lt_irrefl _ (heq ▸ hlt)

/-- A field of a family is its stem with digits behind it. -/
theorem isFamilyField_iff {wireName field : String} :
    isFamilyField wireName field = true ↔ ∃ digits, digits ≠ [] ∧ digits.all Char.isDigit = true ∧
      field.toList = (familyStem wireName).toList ++ digits := by
  rw [isFamilyField]
  constructor
  · intro h
    split at h
    · rename_i digits hdigits
      rw [Bool.and_eq_true] at h
      refine ⟨digits, by simpa using h.1, h.2, ?_⟩
      exact (List.isPrefixOf?_eq_some_iff_append_eq.mp hdigits).symm
    · contradiction
  · rintro ⟨digits, hne, hdigits, hfield⟩
    rw [List.isPrefixOf?_eq_some_iff_append_eq.mpr hfield.symm]
    simp [hne, hdigits]

end ApiAtlas.Request.Params

namespace ApiAtlas.Command

open Descriptor Request

/-! ## Fields that words give -/

def given (words : List String) : List (String × String) := words.filterMap splitField?

/-- The last value that words give for a name. -/
def lastGiven? (words : List String) (name : String) : Option String :=
  (given words).reverse.lookup name

/-- Fields with names and values set one after the other. -/
def insertAll (fields : Params) (pairs : List (String × String)) : Params :=
  pairs.foldl (fun fields pair => fields.insert pair.1 pair.2) fields

theorem get?_insertAll (fields : Params) (pairs : List (String × String)) (name : String) :
    (insertAll fields pairs).get? name = (pairs.reverse.lookup name).or (fields.get? name) := by
  induction pairs generalizing fields with
  | nil => rfl
  | cons pair rest ih =>
    have hstep : (fields.insert pair.1 pair.2).get? name =
        ([pair].lookup name).or (fields.get? name) := by
      by_cases hname : name = pair.1
      · rw [hname, Params.get?_insert_self, List.lookup_cons_self]
        rfl
      · rw [Params.get?_insert_of_ne fields hname, List.lookup_cons, beq_false_of_ne hname]
        rfl
    rw [insertAll, List.foldl_cons, ← insertAll, ih, hstep, List.reverse_cons, List.lookup_append,
      Option.or_assoc]

theorem sorted_insertAll {fields : Params} (h : Params.Sorted fields.fields)
    (pairs : List (String × String)) : Params.Sorted (insertAll fields pairs).fields := by
  induction pairs generalizing fields with
  | nil => exact h
  | cons pair rest ih => exact ih (Params.sorted_place h pair.1 pair.2)

/-- The first word that gives no field a value. -/
def badWord? (words : List String) : Option String :=
  words.find? fun word => (splitField? word).isNone

/-- Words are put into fields one after the other, up to the first that gives none. -/
theorem foldlM_fields (words : List String) (start : Params) :
    words.foldlM (fun fields word => match splitField? word with
      | some (name, value) => .ok (fields.insert name value)
      | none => .error (.notAField word)) start = (match badWord? words with
        | some word => .error (.notAField word)
        | none => .ok (insertAll start (given words)) : Except CommandError Params) := by
  induction words generalizing start with
  | nil => rfl
  | cons word rest ih =>
    rw [List.foldlM_cons, badWord?, List.find?_cons, given, List.filterMap_cons]
    cases hword : splitField? word with
    | none => rfl
    | some field => exact ih _

theorem fieldsOf_eq (words : List String) :
    fieldsOf words = match badWord? words with
      | some word => .error (.notAField word)
      | none => .ok (insertAll {} (given words)) := foldlM_fields words {}

section Given

variable {words : List String} {fields : Params}

theorem get?_fieldsOf (h : fieldsOf words = .ok fields) (name : String) :
    fields.get? name = lastGiven? words name := by
  rw [fieldsOf_eq] at h
  split at h
  · contradiction
  · obtain rfl := Except.ok.inj h
    rw [get?_insertAll]
    exact Option.or_none

theorem nodup_fieldsOf (h : fieldsOf words = .ok fields) : (fields.fields.map (·.1)).Nodup := by
  rw [fieldsOf_eq] at h
  split at h
  · contradiction
  · obtain rfl := Except.ok.inj h
    exact (sorted_insertAll List.Pairwise.nil _).nodup

theorem mem_names_fieldsOf (h : fieldsOf words = .ok fields) {name : String} :
    name ∈ fields.fields.map (·.1) ↔ name ∈ (given words).map (·.1) := by
  have hlookup : (fields.fields.lookup name).isSome = ((given words).reverse.lookup name).isSome :=
    congrArg Option.isSome (get?_fieldsOf h name)
  rw [Params.mem_names_iff, hlookup, ← Params.mem_names_iff, List.map_reverse, List.mem_reverse]

/-- Whether words give a parameter a value: a family takes any field of its stem and a number. -/
def Gives (words : List String) (p : Parameter) : Prop :=
  if p.isFamily then
    ∃ name ∈ (given words).map (·.1), ∃ digits, digits ≠ [] ∧ digits.all Char.isDigit = true ∧
      name.toList = (familyStem p.wireName).toList ++ digits
  else p.wireName ∈ (given words).map (·.1)

instance (words : List String) (p : Parameter) : Decidable (Gives words p) :=
  if h : p.isFamily = true then
    decidable_of_iff (((given words).map (·.1)).any (Params.isFamilyField p.wireName) = true) <| by
      simp only [Gives, h, if_true, List.any_eq_true, Params.isFamilyField_iff]
  else
    decidable_of_iff (p.wireName ∈ (given words).map (·.1)) <| by
      simp only [Gives, h, Bool.false_eq_true, if_false]

theorem supplies_iff (h : fieldsOf words = .ok fields) {p : Parameter} :
    supplies fields p = true ↔ Gives words p := by
  rw [supplies, Gives]
  split
  · simp only [← mem_names_fieldsOf h, Params.hasFamily, List.any_eq_true,
      Params.isFamilyField_iff, List.mem_map, exists_exists_and_eq_and]
  · rw [← mem_names_fieldsOf h, Params.mem_names_iff]
    rfl

end Given

end ApiAtlas.Command
