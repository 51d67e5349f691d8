import ApiAtlas.Json.Basic
import Mathlib.Data.List.Induction
import Mathlib.Data.List.Nodup

/-!
# Fields of objects

Fields are looked at by the value of a name or as a list in which each name stands once. The two
agree, and both are got by setting one field after the other.
-/

namespace ApiAtlas.Fields

variable {α β : Type}

/-! ## One field -/

theorem mem_put_self (name : String) (v : α) (fields : Fields α) :
    (name, v) ∈ put name v fields := by
  induction fields with
  | nil => exact List.mem_singleton_self _
  | cons field rest ih =>
    rw [put]
    split
    · rename_i hname
      rw [hname]
      exact List.mem_cons_self
    · exact List.mem_cons_of_mem _ ih

theorem mem_put_of_ne {name : String} {v : α} {fields : Fields α} {field : String × α}
    (h : field ∈ fields) (hne : field.1 ≠ name) : field ∈ put name v fields := by
  induction fields with
  | nil => contradiction
  | cons first rest ih =>
    rw [put]
    split
    · rename_i hname
      rcases List.mem_cons.mp h with rfl | h
      · exact absurd hname hne
      · exact List.mem_cons_of_mem _ h
    · rcases List.mem_cons.mp h with rfl | h
      · exact List.mem_cons_self
      · exact List.mem_cons_of_mem _ (ih h)

theorem nodup_put (name : String) (v : α) {fields : Fields α} (h : (fields.map (·.1)).Nodup) :
    ((put name v fields).map (·.1)).Nodup := by
  induction fields with
  | nil => exact List.nodup_singleton name
  | cons field rest ih =>
    obtain ⟨hnew, hrest⟩ := List.nodup_cons.mp h
    rw [put]
    split
    · exact h
    · rename_i hname
      refine List.nodup_cons.mpr ⟨fun hmem => ?_, ih hrest⟩
      obtain ⟨other, hother, hkey⟩ := List.mem_map.mp hmem
      rcases mem_put hother with rfl | hother
      · exact hname hkey.symm
      · exact hnew (List.mem_map.mpr ⟨other, hother, hkey⟩)

theorem put_of_not_mem {name : String} (v : α) {fields : Fields α}
    (h : name ∉ fields.map (·.1)) : put name v fields = fields ++ [(name, v)] := by
  induction fields with
  | nil => rfl
  | cons field rest ih =>
    obtain ⟨hne, hrest⟩ := not_or.mp (mt List.mem_cons.mpr h)
    rw [put, if_neg (Ne.symm hne), ih hrest, List.cons_append]

theorem put_map (g : String → α → β) (name : String) (v : α) (fields : Fields α) :
    put name (g name v) (fields.map fun field => (field.1, g field.1 field.2)) =
      (put name v fields).map fun field => (field.1, g field.1 field.2) := by
  induction fields with
  | nil => rfl
  | cons field rest ih =>
    simp only [List.map_cons, put]
    split
    · rename_i hname
      simp [hname]
    · rw [List.map_cons, ih]

/-! ## Each name once -/

theorem resolve_concat (fields : Fields α) (field : String × α) :
    resolve (fields ++ [field]) = put field.1 field.2 (resolve fields) := by
  simp [resolve]

theorem resolve_map (g : String → α → β) (fields : Fields α) :
    resolve (fields.map fun field => (field.1, g field.1 field.2)) =
      (resolve fields).map fun field => (field.1, g field.1 field.2) := by
  induction fields using List.reverseRecOn with
  | nil => rfl
  | append_singleton fields field ih =>
    rw [List.map_append, List.map_singleton, resolve_concat, resolve_concat, ih, put_map]

theorem nodup_resolve (fields : Fields α) : ((resolve fields).map (·.1)).Nodup := by
  induction fields using List.reverseRecOn with
  | nil => exact List.nodup_nil
  | append_singleton fields field ih =>
    rw [resolve_concat]
    exact nodup_put field.1 field.2 ih

theorem resolve_eq_self {fields : Fields α} (h : (fields.map (·.1)).Nodup) :
    resolve fields = fields := by
  induction fields using List.reverseRecOn with
  | nil => rfl
  | append_singleton fields field ih =>
    rw [List.map_append, List.nodup_append] at h
    have hnew : field.1 ∉ fields.map (·.1) := fun hmem =>
      h.2.2 field.1 hmem field.1 List.mem_cons_self rfl
    rw [resolve_concat, ih h.1, put_of_not_mem field.2 hnew]

/-- A name stands in the list with the value that is found for it. -/
theorem mem_resolve_iff {name : String} {v : α} {fields : Fields α} :
    (name, v) ∈ resolve fields ↔ find? name fields = some v := by
  induction fields using List.reverseRecOn with
  | nil => simp [resolve]
  | append_singleton fields field ih =>
    obtain ⟨key, w⟩ := field
    rw [resolve_concat, find?_append, find?, find?_nil, Option.none_or]
    by_cases hname : key = name
    · subst hname
      rw [if_pos rfl, Option.some_or, Option.some_inj]
      refine ⟨fun hmem => ?_, fun h => h ▸ mem_put_self key w _⟩
      have hsame := List.inj_on_of_nodup_map (nodup_put key w (nodup_resolve fields))
        (mem_put_self key w _) hmem rfl
      exact congrArg Prod.snd hsame
    · rw [if_neg hname, Option.none_or, ← ih]
      refine ⟨fun hmem => ?_, fun hmem => mem_put_of_ne hmem (Ne.symm hname)⟩
      rcases mem_put hmem with heq | hmem
      · exact absurd (congrArg Prod.fst heq).symm hname
      · exact hmem

end ApiAtlas.Fields

namespace ApiAtlas.Json

/-- The members of an object are what is found by their names. -/
theorem mem_members_iff {v w : Json} {fields : Fields Json} {name : String}
    (h : v.members? = some fields) : (name, w) ∈ fields ↔ v.member? name = some w := by
  cases v with
  | obj raw =>
    obtain rfl := Option.some.inj h
    exact Fields.mem_resolve_iff
  | _ => contradiction

end ApiAtlas.Json
