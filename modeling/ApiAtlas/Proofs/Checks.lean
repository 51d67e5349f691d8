import Mathlib.Data.List.Forall2
import Mathlib.Data.List.Perm.Basic

/-!
# Sequences of checks

A check either gives a value or complains, and the first complaint ends a sequence of checks. These
laws say when a sequence succeeds and which complaint it ends with.
-/

namespace ApiAtlas.Checks

variable {α β ε : Type}

theorem bind_eq_ok {x : Except ε α} {f : α → Except ε β} {b : β} :
    x >>= f = .ok b ↔ ∃ a, x = .ok a ∧ f a = .ok b := by
  cases x <;> simp [bind, Except.bind]

theorem map_eq_ok {x : Except ε α} {f : α → β} {b : β} :
    f <$> x = .ok b ↔ ∃ a, x = .ok a ∧ f a = b := by
  cases x <;> simp [Functor.map, Except.map]

theorem exists_eq_ok {x : Except ε α} (h : x.toOption.isSome = true) : ∃ a, x = .ok a := by
  cases x with
  | error e => simp [Except.toOption] at h
  | ok a => exact ⟨a, rfl⟩

/-- What can be computed of the value that a check gives holds of it. -/
theorem exists_ok_and {x : Except ε α} {P : α → Prop} [DecidablePred P]
    (h : x.toOption.any (fun a => decide (P a)) = true) : ∃ a, x = .ok a ∧ P a := by
  cases x with
  | error e => simp [Except.toOption] at h
  | ok a => exact ⟨a, rfl, by simpa [Except.toOption] using h⟩

theorem mapM_eq_ok {f : α → Except ε β} {xs : List α} {ys : List β} :
    xs.mapM f = .ok ys ↔ List.Forall₂ (fun x y => f x = .ok y) xs ys := by
  induction xs generalizing ys with
  | nil => simp [pure, Except.pure, eq_comm]
  | cons x xs ih =>
    rw [List.mapM_cons]
    simp only [bind_eq_ok, pure, Except.pure, Except.ok.injEq, List.forall₂_cons_left_iff]
    constructor
    · rintro ⟨y, hy, ys', hys, rfl⟩
      exact ⟨y, ys', hy, ih.mp hys, rfl⟩
    · rintro ⟨y, ys', hy, hys, rfl⟩
      exact ⟨y, hy, ys', ih.mpr hys, rfl⟩

/-- A sequence of checks goes along with maps of what is checked and of what comes out. -/
theorem mapM_map {γ δ : Type} {f : γ → Except ε δ} {g : α → Except ε β} {u : α → γ} {v : β → δ}
    {xs : List α} (h : ∀ x ∈ xs, f (u x) = v <$> g x) :
    (xs.map u).mapM f = List.map v <$> xs.mapM g := by
  induction xs with
  | nil => rfl
  | cons x xs ih =>
    obtain ⟨hx, hxs⟩ := List.forall_mem_cons.mp h
    rw [List.map_cons, List.mapM_cons, List.mapM_cons, hx, ih hxs]
    cases g x with
    | error e => rfl
    | ok y => cases xs.mapM g <;> rfl

theorem foldlM_map {γ σ τ : Type} {f : τ → γ → Except ε τ} {g : σ → α → Except ε σ} {u : α → γ}
    {v : σ → τ} {xs : List α} (h : ∀ s, ∀ x ∈ xs, f (v s) (u x) = v <$> g s x) (s : σ) :
    (xs.map u).foldlM f (v s) = v <$> xs.foldlM g s := by
  induction xs generalizing s with
  | nil => rfl
  | cons x xs ih =>
    rw [List.map_cons, List.foldlM_cons, List.foldlM_cons, h s x List.mem_cons_self]
    cases g s x with
    | error e => rfl
    | ok next => exact ih (fun s y hy => h s y (List.mem_cons_of_mem x hy)) next

/-- Two lists of checks of what looks the same give what looks the same, if single checks do. -/
theorem map_eq_of_mapM {γ δ : Type} {f : α → Except ε β} {u : α → γ} {v : β → δ}
    (h : ∀ x y a b, u x = u y → f x = .ok a → f y = .ok b → v a = v b) {xs ys : List α}
    (hsame : xs.map u = ys.map u) {as bs : List β} (has : xs.mapM f = .ok as)
    (hbs : ys.mapM f = .ok bs) : as.map v = bs.map v := by
  rw [mapM_eq_ok] at has hbs
  induction has generalizing ys bs with
  | nil =>
    obtain rfl := List.map_eq_nil_iff.mp hsame.symm
    obtain rfl := List.forall₂_nil_left_iff.mp hbs
    rfl
  | @cons x a xs as ha _ ih =>
    obtain ⟨y, ys, rfl, hxy, hrest⟩ := List.map_eq_cons_iff.mp hsame.symm
    obtain ⟨b, rest, hb, hreads, rfl⟩ := List.forall₂_cons_left_iff.mp hbs
    rw [List.map_cons, List.map_cons, h x y a b hxy.symm ha hb, ih hrest.symm hreads]

/-- Two sequences of checks of what looks the same end in states that look the same, if single
checks keep to that. -/
theorem eq_of_foldlM {σ γ τ : Type} {f : σ → α → Except ε σ} {u : α → γ} {v : σ → τ}
    {xs ys : List α}
    (h : ∀ x ∈ xs, ∀ y s t s' t', u x = u y → v s = v t → f s x = .ok s' → f t y = .ok t' →
      v s' = v t')
    (hsame : xs.map u = ys.map u) {s t s' t' : σ} (hst : v s = v t)
    (hs : xs.foldlM f s = .ok s') (ht : ys.foldlM f t = .ok t') : v s' = v t' := by
  induction xs generalizing ys s t with
  | nil =>
    obtain rfl := List.map_eq_nil_iff.mp hsame.symm
    obtain rfl := Except.ok.inj hs
    obtain rfl := Except.ok.inj ht
    exact hst
  | cons x xs ih =>
    obtain ⟨y, ys, rfl, hxy, hrest⟩ := List.map_eq_cons_iff.mp hsame.symm
    rw [List.foldlM_cons, bind_eq_ok] at hs ht
    obtain ⟨s₁, hs₁, hs⟩ := hs
    obtain ⟨t₁, ht₁, ht⟩ := ht
    exact ih (fun x hx => h x (List.mem_cons_of_mem _ hx)) hrest.symm
      (h x List.mem_cons_self y s t s₁ t₁ hxy.symm hst hs₁ ht₁) hs ht

/-- In another order the same checks give the same, in another order. -/
theorem exists_mapM_of_perm {f : α → Except ε β} {xs ys : List α} (hperm : xs.Perm ys)
    {as : List β} (h : xs.mapM f = .ok as) : ∃ bs, ys.mapM f = .ok bs ∧ as.Perm bs := by
  obtain ⟨bs, hbs, hsame⟩ := List.perm_comp_forall₂ hperm.symm (mapM_eq_ok.mp h)
  exact ⟨bs, mapM_eq_ok.mpr hbs, hsame.symm⟩

theorem exists_mapM_eq_ok {f : α → Except ε β} {xs : List α} :
    (∃ ys, xs.mapM f = .ok ys) ↔ ∀ x ∈ xs, ∃ y, f x = .ok y := by
  simp only [mapM_eq_ok]
  induction xs with
  | nil => simp
  | cons x xs ih =>
    simp only [List.forall₂_cons_left_iff, List.forall_mem_cons, ← ih]
    constructor
    · rintro ⟨_, y, ys, hy, hys, rfl⟩
      exact ⟨⟨y, hy⟩, ys, hys⟩
    · rintro ⟨⟨y, hy⟩, ys, hys⟩
      exact ⟨_, y, ys, hy, hys, rfl⟩

/-- What every step of a sequence keeps holds at its end. -/
theorem foldlM_keeps {σ : Type} {f : σ → α → Except ε σ} {P : σ → Prop} {xs : List α}
    (hf : ∀ s x s', x ∈ xs → P s → f s x = .ok s' → P s') {s s' : σ} (hs : P s)
    (h : xs.foldlM f s = .ok s') : P s' := by
  induction xs generalizing s with
  | nil =>
    obtain rfl := Except.ok.inj h
    exact hs
  | cons x xs ih =>
    rw [List.foldlM_cons, bind_eq_ok] at h
    obtain ⟨t, ht, h⟩ := h
    exact ih (fun s y s' hy => hf s y s' (List.mem_cons_of_mem _ hy))
      (hf s x t List.mem_cons_self hs ht) h

/-! ## Checks that complain -/

theorem bind_eq_error {x : Except ε α} {f : α → Except ε β} {e : ε} :
    x >>= f = .error e ↔ x = .error e ∨ ∃ a, x = .ok a ∧ f a = .error e := by
  cases x <;> simp [bind, Except.bind]

theorem map_eq_error {x : Except ε α} {f : α → β} {e : ε} : f <$> x = .error e ↔ x = .error e := by
  cases x <;> simp [Functor.map, Except.map]

/-- A check that complains of whatever it is. -/
def Fails (x : Except ε α) : Prop := ∃ e, x = .error e

theorem fails_error (e : ε) : Fails (.error e : Except ε α) := ⟨e, rfl⟩

@[simp] theorem not_fails_ok (a : α) : ¬ Fails (.ok a : Except ε α) := nofun

theorem not_fails_iff {x : Except ε α} : ¬ Fails x ↔ ∃ a, x = .ok a := by
  cases x with
  | error e => exact iff_of_false (not_not.mpr (fails_error e)) nofun
  | ok a => exact iff_of_true (not_fails_ok a) ⟨a, rfl⟩

/-- A check with a single complaint fails where it makes it. -/
theorem fails_iff {x : Except ε α} {P : Prop} {complaint : ε}
    (h : ∀ {e}, x = .error e ↔ P ∧ complaint = e) : Fails x ↔ P :=
  ⟨fun ⟨_, hx⟩ => (h.mp hx).1, fun hP => ⟨complaint, h.mpr ⟨hP, rfl⟩⟩⟩

theorem fails_map {x : Except ε α} {f : α → β} : Fails (f <$> x) ↔ Fails x :=
  exists_congr fun _ => map_eq_error

/-- Where what follows a check fails in any case or in none, both checks are made for themselves. -/
theorem fails_bind {x : Except ε α} {f : α → Except ε β} {P : Prop}
    (h : ∀ a, x = .ok a → (Fails (f a) ↔ P)) : Fails (x >>= f) ↔ Fails x ∨ P := by
  cases x with
  | error e => exact iff_of_true (fails_error e) (.inl (fails_error e))
  | ok a => exact (h a rfl).trans (or_iff_right (not_fails_ok a)).symm

theorem fails_bind_pure {x : Except ε α} {f : α → β} :
    Fails (x >>= fun a => pure (f a)) ↔ Fails x := by
  rw [bind_pure_comp, fails_map]

theorem fails_mapM {f : α → Except ε β} {xs : List α} :
    Fails (xs.mapM f) ↔ ∃ x ∈ xs, Fails (f x) := by
  rw [← not_iff_not, not_fails_iff, exists_mapM_eq_ok]
  simp only [← not_fails_iff, not_exists, not_and]

/-- The complaint of a check, if it has one. -/
def complaint? : Except ε α → Option ε
  | .error e => some e
  | .ok _ => none

@[simp] theorem complaint?_ok (a : α) : complaint? (.ok a : Except ε α) = none := rfl

@[simp] theorem complaint?_error (e : ε) : complaint? (.error e : Except ε α) = some e := rfl

theorem complaint?_eq_some {x : Except ε α} {e : ε} : complaint? x = some e ↔ x = .error e := by
  cases x <;> simp

@[simp] theorem complaint?_map (x : Except ε α) (f : α → β) :
    complaint? (f <$> x) = complaint? x := by
  cases x <;> rfl

/-- A list of checks ends with the complaint of the first that has one. -/
theorem complaint?_mapM (f : α → Except ε β) (xs : List α) :
    complaint? (xs.mapM f) = xs.findSome? fun x => complaint? (f x) := by
  induction xs with
  | nil => rfl
  | cons x xs ih =>
    rw [List.mapM_cons, List.findSome?_cons, ← ih]
    cases f x with
    | error e => rfl
    | ok y => cases xs.mapM f <;> rfl

/-! ## What is complained of -/

section Complaints

variable {P : ε → Prop}

/-- A check complains of nothing but what has a property. -/
def FailsOnly (P : ε → Prop) (x : Except ε α) : Prop := ∀ e, x = .error e → P e

theorem failsOnly_ok (a : α) : FailsOnly P (.ok a : Except ε α) := nofun

theorem FailsOnly.bind {x : Except ε α} {f : α → Except ε β} (hx : FailsOnly P x)
    (hf : ∀ a, x = .ok a → FailsOnly P (f a)) : FailsOnly P (x >>= f) := fun e he => by
  rcases bind_eq_error.mp he with he | ⟨a, ha, he⟩
  · exact hx e he
  · exact hf a ha e he

theorem FailsOnly.map {x : Except ε α} (hx : FailsOnly P x) (f : α → β) :
    FailsOnly P (f <$> x) := fun e he => hx e (map_eq_error.mp he)

theorem FailsOnly.bind_pure {x : Except ε α} (hx : FailsOnly P x) (f : α → β) :
    FailsOnly P (x >>= fun a => pure (f a)) :=
  hx.bind fun a _ => failsOnly_ok (f a)

theorem FailsOnly.mapM {f : α → Except ε β} {xs : List α} (hf : ∀ x ∈ xs, FailsOnly P (f x)) :
    FailsOnly P (xs.mapM f) := by
  induction xs with
  | nil => exact failsOnly_ok []
  | cons x xs ih =>
    rw [List.mapM_cons]
    obtain ⟨hx, hxs⟩ := List.forall_mem_cons.mp hf
    exact hx.bind fun _ _ => (ih hxs).bind_pure _

theorem FailsOnly.foldlM {σ : Type} {f : σ → α → Except ε σ} {xs : List α}
    (hf : ∀ x ∈ xs, ∀ s, FailsOnly P (f s x)) (s : σ) : FailsOnly P (xs.foldlM f s) := by
  induction xs generalizing s with
  | nil => exact failsOnly_ok s
  | cons x xs ih =>
    rw [List.foldlM_cons]
    obtain ⟨hx, hxs⟩ := List.forall_mem_cons.mp hf
    exact (hx s).bind fun t _ => ih hxs t

end Complaints

end ApiAtlas.Checks
