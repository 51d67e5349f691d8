/-!
# Name scopes

A scope keeps the names given out in it. A name that is taken is tried with a qualifier, and then
with a counter from 2 on behind that; among as many counters as there are taken names and one more,
one is free.
-/

namespace ApiAtlas.Naming

/-- A stem with each of the numbers from 2 on behind it. -/
def numbered (count : Nat) (stem : String) : List String :=
  (List.range count).map fun i => stem ++ toString (i + 2)

/-- The first of the numbers from 2 on that makes a name behind a stem which is not taken. -/
def numberedFree (taken : List String) (stem : String) : String :=
  ((numbered (taken.length + 1) stem).find? (!taken.contains ·)).getD stem

theorem eq_of_append_toString {stem : String} {i j : Nat}
    (h : stem ++ toString i = stem ++ toString j) : i = j := by
  have hdigits : Nat.toDigits 10 i = Nat.toDigits 10 j := by
    simpa [← String.toList_inj] using h
  simpa using congrArg (fun digits => Nat.ofDigitChars 10 digits 0) hdigits

theorem isDigit_of_mem_toString {k : Nat} : ∀ c ∈ (toString k).toList, c.isDigit = true := by
  intro c hc
  exact Nat.isDigit_of_mem_toDigits (by decide) (Nat.le_refl 10) (by simpa using hc)

theorem append_underscore_ne (name rest : String) : name ++ "_" ++ rest ≠ name := by
  intro h
  have hlength := congrArg (List.length ∘ String.toList) h
  have hone : ("_" : String).toList.length = 1 := rfl
  simp only [Function.comp_apply, String.toList_append, List.length_append] at hlength
  omega

theorem nodup_numbered (count : Nat) (stem : String) : (numbered count stem).Nodup := by
  refine List.pairwise_map.2 (List.nodup_range.imp ?_)
  intro i j hij h
  have := eq_of_append_toString h
  omega

/-- There are more numbered names than taken ones. -/
theorem exists_find?_numbered (taken : List String) (stem : String) :
    ∃ name, (numbered (taken.length + 1) stem).find? (!taken.contains ·) = some name := by
  cases hf : (numbered (taken.length + 1) stem).find? (!taken.contains ·) with
  | some name => exact ⟨name, rfl⟩
  | none =>
    have hs : numbered (taken.length + 1) stem ⊆ taken := fun name h => by
      simpa using List.find?_eq_none.1 hf name h
    have hl := (nodup_numbered (taken.length + 1) stem).length_le_of_subset hs
    simp only [numbered, List.length_map, List.length_range] at hl
    omega

theorem numberedFree_not_mem (taken : List String) (stem : String) :
    numberedFree taken stem ∉ taken := by
  obtain ⟨name, hf⟩ := exists_find?_numbered taken stem
  rw [numberedFree, hf]
  simpa using List.find?_some hf

/-- All numbers before the one that is found make taken names. -/
theorem exists_numberedFree_eq (taken : List String) (stem : String) :
    ∃ k, 2 ≤ k ∧ numberedFree taken stem = stem ++ toString k ∧
      ∀ j, 2 ≤ j → j < k → stem ++ toString j ∈ taken := by
  obtain ⟨name, hf⟩ := exists_find?_numbered taken stem
  rw [numberedFree, hf]
  rw [numbered, List.find?_map, Option.map_eq_some_iff] at hf
  obtain ⟨i, hi, rfl⟩ := hf
  refine ⟨i + 2, Nat.le_add_left 2 i, rfl, fun j hj hlt => ?_⟩
  have hbefore := (List.find?_range_eq_some.mp hi).2.2 (j - 2) (by omega)
  simpa [Nat.sub_add_cancel hj] using hbefore

/-- The names given out so far. -/
structure NameScope where
  taken : List String := []

namespace NameScope

/-- The first name for a base name and a qualifier that is not taken. -/
def fresh (scope : NameScope) (base qualifier : String) : String :=
  let qualified := base ++ "_" ++ qualifier
  if !scope.taken.contains base then base
  else if !scope.taken.contains qualified then qualified
  else numberedFree scope.taken (qualified ++ "_")

/-- A scope gives out the base name if that is free, then the base name with the qualifier if this
is free, and then the first number behind them that is. -/
theorem fresh_cases (scope : NameScope) (base qualifier : String) :
    (base ∉ scope.taken ∧ scope.fresh base qualifier = base) ∨
      (base ∈ scope.taken ∧ base ++ "_" ++ qualifier ∉ scope.taken ∧
        scope.fresh base qualifier = base ++ "_" ++ qualifier) ∨
      (base ∈ scope.taken ∧ base ++ "_" ++ qualifier ∈ scope.taken ∧
        ∃ k, 2 ≤ k ∧ scope.fresh base qualifier = base ++ "_" ++ qualifier ++ "_" ++ toString k ∧
          scope.fresh base qualifier ∉ scope.taken ∧
          ∀ j, 2 ≤ j → j < k → base ++ "_" ++ qualifier ++ "_" ++ toString j ∈ scope.taken) := by
  by_cases hbase : base ∈ scope.taken
  · right
    by_cases hqualified : base ++ "_" ++ qualifier ∈ scope.taken
    · right
      have hfresh : scope.fresh base qualifier =
          numberedFree scope.taken (base ++ "_" ++ qualifier ++ "_") := by
        simp [fresh, hbase, hqualified]
      obtain ⟨k, hk, hfree, hbefore⟩ :=
        exists_numberedFree_eq scope.taken (base ++ "_" ++ qualifier ++ "_")
      refine ⟨hbase, hqualified, k, hk, hfresh.trans hfree, ?_, hbefore⟩
      rw [hfresh]
      exact numberedFree_not_mem scope.taken _
    · left
      exact ⟨hbase, hqualified, by simp [fresh, hbase, hqualified]⟩
  · left
    exact ⟨hbase, by simp [fresh, hbase]⟩

theorem fresh_not_mem (scope : NameScope) (base qualifier : String) :
    scope.fresh base qualifier ∉ scope.taken := by
  rcases scope.fresh_cases base qualifier with ⟨hfree, heq⟩ | ⟨-, hfree, heq⟩ | ⟨-, -, k, hnumber⟩
  · rwa [heq]
  · rwa [heq]
  · exact hnumber.2.2.1

def claim (scope : NameScope) (base qualifier : String) : String × NameScope :=
  let name := scope.fresh base qualifier
  (name, ⟨name :: scope.taken⟩)

/-- Gives out names for a list of base names and qualifiers, in order. -/
def claimAll (scope : NameScope) : List (String × String) → List String × NameScope
  | [] => ([], scope)
  | (base, qualifier) :: rest =>
    let (name, scope) := scope.claim base qualifier
    let (names, scope) := claimAll scope rest
    (name :: names, scope)

@[simp] theorem length_claimAll (scope : NameScope) (claims : List (String × String)) :
    (scope.claimAll claims).1.length = claims.length := by
  induction claims generalizing scope with
  | nil => rfl
  | cons c rest ih => simp [claimAll, ih]

/-- The taken names of a scope are those that it has given out, the last one in front. -/
theorem taken_claimAll (scope : NameScope) (claims : List (String × String)) :
    (scope.claimAll claims).2.taken = (scope.claimAll claims).1.reverse ++ scope.taken := by
  induction claims generalizing scope with
  | nil => rfl
  | cons c rest ih => simp [claimAll, claim, ih]

theorem base_mem_claim (scope : NameScope) (base qualifier : String) :
    base ∈ (scope.claim base qualifier).2.taken := by
  rcases scope.fresh_cases base qualifier with ⟨-, heq⟩ | ⟨hmem, -⟩ | ⟨hmem, -⟩
  · rw [claim, heq]
    exact List.mem_cons_self
  · exact List.mem_cons_of_mem _ hmem
  · exact List.mem_cons_of_mem _ hmem

/-- Every base name is taken behind its claim. -/
theorem base_mem_claimAll {claims : List (String × String)} {base qualifier : String}
    (h : (base, qualifier) ∈ claims) (scope : NameScope) :
    base ∈ (scope.claimAll claims).2.taken := by
  induction claims generalizing scope with
  | nil => exact absurd h List.not_mem_nil
  | cons claim rest ih =>
    rcases List.mem_cons.mp h with rfl | hrest
    · have hgrown := taken_claimAll (scope.claim base qualifier).2 rest
      have hmem := List.mem_append_right
        ((scope.claim base qualifier).2.claimAll rest).1.reverse
        (scope.base_mem_claim base qualifier)
      rwa [← hgrown] at hmem
    · exact ih hrest _

/-- No name is given out twice. -/
theorem nodup_claimAll {scope : NameScope} (h : scope.taken.Nodup)
    (claims : List (String × String)) : (scope.claimAll claims).2.taken.Nodup := by
  induction claims generalizing scope with
  | nil => exact h
  | cons c rest ih => exact ih (List.nodup_cons.mpr ⟨scope.fresh_not_mem c.1 c.2, h⟩)

end NameScope

end ApiAtlas.Naming
