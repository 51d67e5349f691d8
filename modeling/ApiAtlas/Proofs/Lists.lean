import Mathlib.Data.List.Forall2
import Mathlib.Data.List.Basic

/-!
# Lists

Laws of lists that are put together out of others: item by item, one behind the other, or by a
relation between the items.
-/

namespace ApiAtlas.ListLaws

variable {α β γ δ : Type}

/-! ## Two lists item by item -/

theorem zipWith_fst {xs : List α} {ys : List β} (h : xs.length ≤ ys.length) :
    List.zipWith (fun x _ => x) xs ys = xs := by
  conv_rhs => rw [← List.map_fst_zip h]
  rw [List.map_zip_eq_zipWith]
  rfl

theorem zipWith_snd {xs : List α} {ys : List β} (h : ys.length ≤ xs.length)
    (g : β → γ) : List.zipWith (fun _ y => g y) xs ys = ys.map g := by
  conv_rhs => rw [← List.map_snd_zip h]
  rw [List.map_map, List.map_zip_eq_zipWith]
  rfl

theorem exists_of_mem_zipWith {f : α → β → γ} {xs : List α} {ys : List β} {z : γ}
    (h : z ∈ List.zipWith f xs ys) : ∃ x ∈ xs, ∃ y ∈ ys, z = f x y := by
  obtain ⟨i, hi⟩ := List.mem_iff_getElem?.mp h
  obtain ⟨x, y, hx, hy, rfl⟩ := List.getElem?_zipWith_eq_some.mp hi
  exact ⟨x, List.mem_of_getElem? hx, y, List.mem_of_getElem? hy, rfl⟩

theorem exists_mem_zipWith_iff {f : α → γ} {g : β → γ} {k : α → β → δ}
    {P : δ → Prop} {Q : β → Prop} {xs : List α} {ys : List β} (hmap : xs.map f = ys.map g)
    (hiff : ∀ x ∈ xs, ∀ y, f x = g y → (P (k x y) ↔ Q y)) :
    (∃ z ∈ List.zipWith k xs ys, P z) ↔ ∃ y ∈ ys, Q y := by
  induction xs generalizing ys with
  | nil =>
    obtain rfl : ys = [] := by simpa using hmap.symm
    simp
  | cons x xs ih =>
    obtain ⟨hx, hxs⟩ := List.forall_mem_cons.mp hiff
    obtain ⟨y, ys, rfl, hy, hys⟩ := List.map_eq_cons_iff.mp hmap.symm
    rw [List.zipWith_cons_cons, List.exists_mem_cons_iff, List.exists_mem_cons_iff, ih hys.symm hxs,
      hx y hy.symm]

/-! ## Lists of lists -/

theorem mem_of_mem_ite {p : Prop} [Decidable p] {x : α} {xs : List α}
    (h : x ∈ if p then xs else []) : x ∈ xs := by
  split at h
  · exact h
  · simp at h

theorem mem_intercalate {separator : List α} {xss : List (List α)} {x : α}
    (h : x ∈ separator.intercalate xss) : x ∈ separator ∨ ∃ xs ∈ xss, x ∈ xs := by
  induction xss with
  | nil => simp at h
  | cons xs rest ih =>
    cases rest with
    | nil => exact .inr ⟨xs, List.mem_cons_self, by simpa using h⟩
    | cons ys rest =>
      rw [List.intercalate_cons_cons] at h
      simp only [List.mem_append] at h
      rcases h with (h | h) | h
      · exact .inr ⟨xs, List.mem_cons_self, h⟩
      · exact .inl h
      · rcases ih h with h | ⟨zs, hzs, h⟩
        · exact .inl h
        · exact .inr ⟨zs, List.mem_cons_of_mem xs hzs, h⟩

theorem length_flatMap_le {f : α → List β} {g : α → List γ} {xs : List α}
    (h : ∀ x ∈ xs, (f x).length ≤ (g x).length) :
    (xs.flatMap f).length ≤ (xs.flatMap g).length := by
  induction xs with
  | nil => exact Nat.le_refl 0
  | cons x xs ih =>
    obtain ⟨hx, hxs⟩ := List.forall_mem_cons.mp h
    rw [List.flatMap_cons, List.flatMap_cons, List.length_append, List.length_append]
    exact Nat.add_le_add hx (ih hxs)

/-- Lists of which none is longer than its counterpart, but which are as long as these together, are
all as long as their counterparts. -/
theorem length_eq_of_flatMap {f : α → List β} {g : α → List γ} {xs : List α}
    (h : ∀ x ∈ xs, (f x).length ≤ (g x).length)
    (hlength : (xs.flatMap g).length = (xs.flatMap f).length) :
    ∀ x ∈ xs, (f x).length = (g x).length := by
  induction xs with
  | nil => simp
  | cons x xs ih =>
    obtain ⟨hx, hxs⟩ := List.forall_mem_cons.mp h
    have hrest := length_flatMap_le hxs
    rw [List.flatMap_cons, List.flatMap_cons, List.length_append, List.length_append] at hlength
    exact List.forall_mem_cons.mpr ⟨by omega, ih hxs (by omega)⟩

theorem findSome?_flatMap (xs : List α) (f : α → List β) (p : β → Option γ) :
    (xs.flatMap f).findSome? p = xs.findSome? fun x => (f x).findSome? p := by
  induction xs with
  | nil => rfl
  | cons x xs ih =>
    rw [List.flatMap_cons, List.findSome?_append, ih, List.findSome?_cons]
    cases (f x).findSome? p <;> rfl

/-! ## Lists that match -/

theorem exists_of_mem_forall₂ {R : α → β → Prop} {xs : List α} {ys : List β}
    (h : List.Forall₂ R xs ys) : ∀ x ∈ xs, ∃ y ∈ ys, R x y := by
  induction h with
  | nil => simp
  | cons hxy _ ih =>
    refine List.forall_mem_cons.mpr ⟨⟨_, List.mem_cons_self, hxy⟩, fun x hx => ?_⟩
    obtain ⟨y, hy, hr⟩ := ih x hx
    exact ⟨y, List.mem_cons_of_mem _ hy, hr⟩

theorem forall₂_of_map_eq {f : α → γ} {g : β → γ} {xs : List α} {ys : List β}
    (h : xs.map f = ys.map g) : List.Forall₂ (fun x y => f x = g y) xs ys := by
  have heq : List.Forall₂ Eq (xs.map f) (ys.map g) := by rwa [List.forall₂_eq_eq_eq]
  rwa [List.forall₂_map_left_iff, List.forall₂_map_right_iff] at heq

theorem forall₂_flatMap {R : β → γ → Prop} {f : α → List β} {g : α → List γ}
    {xs : List α} (hlength : ∀ x ∈ xs, (f x).length = (g x).length)
    (h : List.Forall₂ R (xs.flatMap f) (xs.flatMap g)) :
    ∀ x ∈ xs, List.Forall₂ R (f x) (g x) := by
  induction xs with
  | nil => simp
  | cons x xs ih =>
    obtain ⟨hx, hxs⟩ := List.forall_mem_cons.mp hlength
    rw [List.flatMap_cons, List.flatMap_cons] at h
    have hhead := List.forall₂_take_append _ _ _ h
    have htail := List.forall₂_drop_append _ _ _ h
    rw [← hx, List.take_left] at hhead
    rw [← hx, List.drop_left] at htail
    exact List.forall_mem_cons.mpr ⟨hhead, ih hxs htail⟩

theorem forall₂_concat {R : α → β → Prop} {xs : List α} {ys : List β} {x : α} {y : β} :
    List.Forall₂ R (xs ++ [x]) (ys ++ [y]) ↔ List.Forall₂ R xs ys ∧ R x y := by
  rw [← List.forall₂_reverse_iff]
  simp [and_comm]

end ApiAtlas.ListLaws
