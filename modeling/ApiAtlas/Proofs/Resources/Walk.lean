import ApiAtlas.Proofs.Lists
import ApiAtlas.Proofs.Resources.Lineage

/-!
# Walks along paths

A walk leads from the root to a resource exactly when the segments lead, one by one, along its
lineage: to a literal by its name, if no earlier sibling has it, to a placeholder by any segment
that is not the name of a literal beside it. The keys that are bound on the way are those of the
placeholders on the lineage.
-/

namespace ApiAtlas.Resources

open ListLaws

namespace Catalog

variable {c : Catalog} {id parent m : Nat} {segment : String}

/-! ## One step -/

/-- In a list in order, the element that is found is the least that fits. -/
theorem find?_sorted {ids : List Nat} (h : ids.Pairwise (· < ·)) {p : Nat → Bool} :
    ids.find? p = some m ↔ m ∈ ids ∧ p m = true ∧ ∀ k ∈ ids, k < m → p k = false := by
  induction ids with
  | nil => simp
  | cons id rest ih =>
    obtain ⟨hlt, hrest⟩ := List.pairwise_cons.mp h
    rw [List.find?_cons]
    cases hp : p id with
    | true =>
      constructor
      · intro hm
        obtain rfl := Option.some.inj hm
        refine ⟨List.mem_cons_self, hp, fun k hk hkm => ?_⟩
        rcases List.mem_cons.mp hk with rfl | hk
        · omega
        · have := hlt k hk
          omega
      · rintro ⟨hm, -, hleast⟩
        rcases List.mem_cons.mp hm with rfl | hm
        · rfl
        · simp [hleast id List.mem_cons_self (hlt m hm)] at hp
    | false =>
      rw [ih hrest]
      constructor
      · rintro ⟨hm, hpm, hleast⟩
        exact ⟨List.mem_cons_of_mem _ hm, hpm, List.forall_mem_cons.mpr ⟨fun _ => hp, hleast⟩⟩
      · rintro ⟨hm, hpm, hleast⟩
        rcases List.mem_cons.mp hm with rfl | hm
        · simp [hp] at hpm
        · exact ⟨hm, hpm, (List.forall_mem_cons.mp hleast).2⟩

theorem literalChild?_eq (c : Catalog) (id : Nat) (name : String) :
    c.literalChild? id name = (c.get id).children.find? fun k =>
      !(c.get k).isPlaceholder && (c.get k).name == name := by
  simp [literalChild?, children, List.find?_map, Function.comp_def]

theorem placeholderChild?_eq (c : Catalog) (id : Nat) :
    c.placeholderChild? id = (c.get id).children.find? fun k => (c.get k).isPlaceholder := by
  simp [placeholderChild?, children, List.find?_map, Function.comp_def]

/-- Whether a segment leads to a resource from its parent: a literal must have it for its name and
be the first to do so, a placeholder must have no literal beside it that has it. -/
def Takes (c : Catalog) (id : Nat) (segment : String) : Prop :=
  if (c.get id).isPlaceholder then ∀ k ∈ c.literalSiblings id, (c.get k).name ≠ segment
  else (c.get id).name = segment ∧
    ∀ k ∈ c.literalSiblings id, k < id → (c.get k).name ≠ segment

theorem takes_placeholder (hm : (c.get m).isPlaceholder = true) :
    c.Takes m segment ↔ ∀ k ∈ c.literalSiblings m, (c.get k).name ≠ segment := by
  rw [Takes, if_pos hm]

theorem takes_literal (hm : (c.get m).isPlaceholder = false) :
    c.Takes m segment ↔ (c.get m).name = segment ∧
      ∀ k ∈ c.literalSiblings m, k < m → (c.get k).name ≠ segment := by
  rw [Takes, if_neg (by simp [hm])]

namespace Rooted

theorem literalChild?_eq_some (h : Rooted c) :
    c.literalChild? parent segment = some m ↔
      (c.get m).parent = some parent ∧ (c.get m).isPlaceholder = false ∧ c.Takes m segment := by
  rw [literalChild?_eq, find?_sorted (h.sorted parent), h.mem_children]
  simp only [Bool.and_eq_true, Bool.not_eq_true', beq_iff_eq, and_assoc]
  refine and_congr_right fun hp => and_congr_right fun hlit => ?_
  rw [takes_literal hlit]
  refine and_congr_right fun hname => forall_congr' fun k => ?_
  rw [h.mem_children, h.mem_literalSiblings hp]
  by_cases hk : k = m
  · simp [hk]
  · cases hb : (c.get k).isPlaceholder <;> simp [hk]

theorem literalChild?_eq_none (h : Rooted c) :
    c.literalChild? parent segment = none ↔ ∀ k, (c.get k).parent = some parent →
      (c.get k).isPlaceholder = false → (c.get k).name ≠ segment := by
  rw [literalChild?_eq, List.find?_eq_none]
  simp only [h.mem_children]
  refine forall_congr' fun k => imp_congr_right fun _ => ?_
  cases hb : (c.get k).isPlaceholder <;> simp

theorem placeholderChild?_eq_some (h : Rooted c) :
    c.placeholderChild? parent = some m ↔
      (c.get m).parent = some parent ∧ (c.get m).isPlaceholder = true := by
  rw [placeholderChild?_eq, find?_sorted (h.sorted parent), h.mem_children]
  refine and_congr_right fun hp => and_iff_left_of_imp fun hb k hk hlt => ?_
  cases hkb : (c.get k).isPlaceholder with
  | false => rfl
  | true =>
    have hkp := (h.mem_children k parent).mp hk
    have hsame : k = m := h.placeholder_unique k m parent hkp hp ⟨hkb, hb⟩
    omega

/-- A segment leads from a resource to a child of it that takes the segment. -/
theorem childFor?_eq_some (h : Rooted c) :
    c.childFor? parent segment = some m ↔
      (c.get m).parent = some parent ∧ c.Takes m segment := by
  rw [childFor?, Option.or_eq_some_iff, h.literalChild?_eq_some, h.literalChild?_eq_none,
    h.placeholderChild?_eq_some]
  constructor
  · rintro (⟨hp, -, ht⟩ | ⟨hnone, hp, hb⟩)
    · exact ⟨hp, ht⟩
    · refine ⟨hp, (takes_placeholder hb).mpr fun k hk => ?_⟩
      obtain ⟨hkp, -, hlit⟩ := (h.mem_literalSiblings hp).mp hk
      exact hnone k hkp hlit
  · rintro ⟨hp, ht⟩
    cases hb : (c.get m).isPlaceholder with
    | false => exact .inl ⟨hp, rfl, ht⟩
    | true =>
      refine .inr ⟨fun k hkp hlit => ?_, hp, rfl⟩
      have hne : k ≠ m := by
        rintro rfl
        simp [hlit] at hb
      exact (takes_placeholder hb).mp ht k ((h.mem_literalSiblings hp).mpr ⟨hkp, hne, hlit⟩)

end Rooted

/-! ## Whole walks -/

/-- Segments lead from the root to a resource exactly when they lead along its lineage. -/
theorem Rooted.walk_eq_some (h : Rooted c) (segments : List String) (id : Nat) :
    segments.foldlM c.childFor? root = some id ↔
      id < c.rows.size ∧ List.Forall₂ c.Takes (c.lineage id) segments := by
  -- a lineage grows at its end, so the induction takes the last segment
  induction segments using List.reverseRecOn generalizing id with
  | nil =>
    simp only [List.foldlM_nil, pure, Option.some.injEq, List.forall₂_nil_right_iff]
    constructor
    · rintro rfl
      exact ⟨h.root_lt, h.lineage_root⟩
    · rintro ⟨hid, hnil⟩
      exact ((h.lineage_eq_nil hid).mp hnil).symm
  | append_singleton segments segment ih =>
    simp only [List.foldlM_append, List.foldlM_cons, List.foldlM_nil, bind_pure,
      Option.bind_eq_bind, Option.bind_eq_some_iff, h.childFor?_eq_some, ih]
    constructor
    · rintro ⟨parent, ⟨-, hwalk⟩, hp, ht⟩
      rw [h.lineage_of_parent hp]
      exact ⟨lt_size_of_parent hp, forall₂_concat.mpr ⟨hwalk, ht⟩⟩
    · rintro ⟨hid, hwalk⟩
      by_cases hne : id = root
      · rw [hne, h.lineage_root, List.forall₂_nil_left_iff] at hwalk
        simp at hwalk
      · obtain ⟨parent, hp⟩ := h.parent_of_ne id hid hne
        rw [h.lineage_of_parent hp] at hwalk
        obtain ⟨hwalk, ht⟩ := forall₂_concat.mp hwalk
        exact ⟨parent, ⟨Nat.lt_trans (h.parent_lt id parent hp) hid, hwalk⟩, hp, ht⟩

theorem Rooted.locate?_eq_some (h : Rooted c) (path : String) (id : Nat) :
    c.locate? path = some id ↔
      id < c.rows.size ∧ List.Forall₂ c.Takes (c.lineage id) (segmentsOf path) :=
  h.walk_eq_some (segmentsOf path) id

/-! ## Keys -/

/-- The key that is bound in the step to a resource, none for a literal. -/
def keyOf? (c : Catalog) (id : Nat) (segment : String) : Option (String × String) :=
  if (c.get id).isPlaceholder then some ((c.get id).indexName, segment) else none

def keysAlong (c : Catalog) (ids : List Nat) (segments : List String) : List (String × String) :=
  (ids.zip segments).filterMap fun (id, segment) => c.keyOf? id segment

theorem bindFrom?_cons (segments : List String) :
    c.bindFrom? id (segment :: segments) = (do
      let child ← c.childFor? id segment
      let keys ← c.bindFrom? child segments
      return (c.keyOf? child segment).toList ++ keys) := by
  rw [bindFrom?, childFor?]
  cases hl : c.literalChild? id segment with
  | some child =>
    have hlit : (c.get child).isPlaceholder = false := by
      rw [literalChild?_eq] at hl
      have := List.find?_some hl
      simp_all
    simp [keyOf?, hlit]
  | none =>
    cases hp : c.placeholderChild? id with
    | none => rfl
    | some child =>
      have hb : (c.get child).isPlaceholder = true := by
        rw [placeholderChild?_eq] at hp
        have := List.find?_some hp
        simp_all
      simp [keyOf?, hb]

/-- Binding keys takes the same way as walking: it fails where the walk fails, and otherwise gives
the keys bound along the resources that the walk goes through. -/
theorem Rooted.bindFrom?_eq (h : Rooted c) (segments : List String) (id : Nat) :
    (segments.foldlM c.childFor? id = none → c.bindFrom? id segments = none) ∧
      ∀ n, segments.foldlM c.childFor? id = some n →
        ∃ ms, c.lineage n = c.lineage id ++ ms ∧
          c.bindFrom? id segments = some (c.keysAlong ms segments) := by
  induction segments generalizing id with
  | nil =>
    refine ⟨by simp [pure], fun n hn => ?_⟩
    obtain rfl := Option.some.inj hn
    exact ⟨[], by simp, rfl⟩
  | cons segment segments ih =>
    rw [List.foldlM_cons, bindFrom?_cons]
    cases hc : c.childFor? id segment with
    | none => simp [bind]
    | some child =>
      obtain ⟨hp, -⟩ := h.childFor?_eq_some.mp hc
      obtain ⟨hnone, hsome⟩ := ih child
      refine ⟨fun hwalk => ?_, fun n hwalk => ?_⟩
      · simp [hnone hwalk]
      · obtain ⟨ms, hms, hkeys⟩ := hsome n hwalk
        refine ⟨child :: ms, ?_, ?_⟩
        · rw [hms, h.lineage_of_parent hp, List.append_assoc]
          rfl
        · rw [keysAlong, List.zip_cons_cons, List.filterMap_cons]
          simp only [Option.bind_eq_bind, Option.bind_some, hkeys]
          cases hk : c.keyOf? child segment <;> simp [keysAlong]

theorem Rooted.bindKeys?_eq (h : Rooted c) (path : String) :
    c.bindKeys? path =
      (c.locate? path).map fun n => c.keysAlong (c.lineage n) (segmentsOf path) := by
  obtain ⟨hnone, hsome⟩ := h.bindFrom?_eq (segmentsOf path) root
  rw [bindKeys?, locate?]
  cases hwalk : (segmentsOf path).foldlM c.childFor? root with
  | none => exact hnone hwalk
  | some n =>
    obtain ⟨ms, hms, hkeys⟩ := hsome n hwalk
    rw [hkeys, Option.map_some, hms, h.lineage_root, List.nil_append]

end Catalog

end ApiAtlas.Resources
