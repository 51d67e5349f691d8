import Mathlib.Data.List.Basic

/-!
# Cutting lists

A list that is cut at marks has pieces without marks. What stands behind or in front of another list
goes on with a piece of it.
-/

namespace ApiAtlas.Text

theorem not_of_mem_splitOnP {α : Type} {p : α → Bool} {xs piece : List α}
    (h : piece ∈ xs.splitOnP p) : ∀ x ∈ piece, p x = false := by
  induction xs generalizing piece with
  | nil =>
    rw [List.splitOnP_nil, List.mem_singleton] at h
    simp [h]
  | cons x xs ih =>
    obtain ⟨first, rest, hsplit⟩ := List.exists_cons_of_ne_nil (List.splitOnP_ne_nil p xs)
    rw [hsplit] at ih
    rw [List.splitOnP_cons_eq_if_modifyHead, hsplit, List.modifyHead_cons] at h
    cases hp : p x with
    | true =>
      rw [hp, if_pos rfl] at h
      rcases List.mem_cons.mp h with rfl | h
      · simp
      · exact ih h
    | false =>
      rw [hp, if_neg Bool.false_ne_true] at h
      rcases List.mem_cons.mp h with rfl | h
      · exact List.forall_mem_cons.mpr ⟨hp, ih List.mem_cons_self⟩
      · exact ih (List.mem_cons_of_mem first h)

theorem not_mem_of_mem_splitOn {α : Type} [BEq α] [LawfulBEq α] {mark : α} {xs piece : List α}
    (h : piece ∈ xs.splitOn mark) : mark ∉ piece := by
  rw [List.splitOn_eq_splitOnP] at h
  intro hmark
  simpa using not_of_mem_splitOnP h mark hmark

theorem mem_of_mem_splitOn {α : Type} [BEq α] [LawfulBEq α] {mark x : α} {xs piece : List α}
    (hpiece : piece ∈ xs.splitOn mark) (hx : x ∈ piece) : x ∈ xs := by
  induction xs generalizing piece with
  | nil =>
    rw [List.splitOn_nil, List.mem_singleton] at hpiece
    exact hpiece ▸ hx
  | cons y xs ih =>
    obtain ⟨first, rest, hsplit⟩ := List.exists_cons_of_ne_nil (List.splitOn_ne_nil mark xs)
    rw [List.splitOn_cons_eq_if_modifyHead, hsplit, List.modifyHead_cons] at hpiece
    split at hpiece
    · rcases List.mem_cons.mp hpiece with rfl | hpiece
      · simp at hx
      · exact List.mem_cons_of_mem y (ih (hsplit ▸ hpiece) hx)
    · rcases List.mem_cons.mp hpiece with rfl | hpiece
      · rcases List.mem_cons.mp hx with rfl | hx
        · exact List.mem_cons_self
        · exact List.mem_cons_of_mem y (ih (hsplit ▸ List.mem_cons_self) hx)
      · exact List.mem_cons_of_mem y (ih (hsplit ▸ List.mem_cons_of_mem first hpiece) hx)

/-- The last piece of a list and the first piece of the list behind it are one piece of both. -/
theorem splitOn_append {α : Type} [BEq α] [LawfulBEq α] {mark : α} {xs ys : List α}
    {front back : List (List α)} {last first : List α} (hxs : xs.splitOn mark = front ++ [last])
    (hys : ys.splitOn mark = first :: back) :
    (xs ++ ys).splitOn mark = front ++ (last ++ first) :: back := by
  induction xs generalizing front last with
  | nil =>
    obtain ⟨rfl, rfl⟩ : front = [] ∧ [] = last := by
      simpa [List.cons_eq_append_iff] using hxs
    simpa using hys
  | cons x xs ih =>
    obtain ⟨front', last', hxs'⟩ : ∃ front' last', xs.splitOn mark = front' ++ [last'] :=
      ⟨_, _, (List.dropLast_append_getLast (List.splitOn_ne_nil mark xs)).symm⟩
    rw [List.splitOn_cons_eq_if_modifyHead, hxs'] at hxs
    rw [List.cons_append, List.splitOn_cons_eq_if_modifyHead, ih hxs']
    by_cases hx : (x == mark) = true
    · rw [if_pos hx, ← List.cons_append] at hxs
      obtain ⟨rfl, hlast⟩ := List.append_inj' hxs rfl
      obtain rfl := List.singleton_inj.mp hlast
      rw [if_pos hx, List.cons_append]
    · rw [if_neg hx] at hxs ⊢
      cases front' with
      | nil =>
        obtain ⟨rfl, hlast⟩ := List.append_inj' (List.nil_append [x :: last'] |>.trans hxs) rfl
        obtain rfl := List.singleton_inj.mp hlast
        rfl
      | cons line front' =>
        rw [List.cons_append, List.modifyHead_cons, ← List.cons_append] at hxs
        obtain ⟨rfl, hlast⟩ := List.append_inj' hxs rfl
        obtain rfl := List.singleton_inj.mp hlast
        rfl

theorem splitOn_append_of_not_mem {α : Type} [BEq α] [LawfulBEq α] {a : α} {xs : List α}
    (h : a ∉ xs) (rest : List α) :
    (xs ++ rest).splitOn a = (rest.splitOn a).modifyHead (xs ++ ·) := by
  induction xs with
  | nil =>
    simp only [List.nil_append]
    cases rest.splitOn a <;> rfl
  | cons x xs ih =>
    simp only [List.mem_cons, not_or] at h
    rw [List.cons_append, List.splitOn_cons_eq_if_modifyHead, if_neg (by simpa using Ne.symm h.1),
      ih h.2]
    simp [Function.comp_def]

/-- Cutting commutes with a map that keeps the mark and makes no new ones. -/
theorem splitOn_flatMap {α β : Type} [BEq α] [LawfulBEq α] [BEq β] [LawfulBEq β] {f : α → List β}
    {a : α} {b : β} (ha : f a = [b]) (hf : ∀ x, x ≠ a → b ∉ f x) (xs : List α) :
    (xs.flatMap f).splitOn b = (xs.splitOn a).map fun part => part.flatMap f := by
  induction xs with
  | nil => simp
  | cons x xs ih =>
    rw [List.flatMap_cons, List.splitOn_cons_eq_if_modifyHead]
    by_cases hx : x = a
    · subst hx
      rw [ha, if_pos (by simp), List.singleton_append, List.splitOn_cons_eq_if_modifyHead,
        if_pos (by simp), ih]
      rfl
    · rw [splitOn_append_of_not_mem (hf x hx), ih, if_neg (by simpa using hx)]
      obtain ⟨first, rest, hparts⟩ := List.exists_cons_of_ne_nil (List.splitOn_ne_nil a xs)
      simp [hparts]

end ApiAtlas.Text
