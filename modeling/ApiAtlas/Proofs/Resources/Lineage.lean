import ApiAtlas.Proofs.Resources.Rooted
import ApiAtlas.Proofs.Resources.Segments

/-!
# Lineages

The lineage of a resource are the resources on the way from the root to it. Its path is made of the
names along the lineage, and its key chain of those that are placeholders.
-/

namespace ApiAtlas.Resources

namespace Catalog

/-- The resources from below the root down to a resource. -/
def lineage (c : Catalog) (id : Nat) : List Nat :=
  match (c.get id).parent with
  | none => []
  | some parent => if parent < id then c.lineage parent ++ [id] else []
termination_by id

def namesOf (c : Catalog) (ids : List Nat) : List String := ids.map fun m => (c.get m).name

def placeholdersOf (c : Catalog) (ids : List Nat) : List Nat :=
  ids.filter fun m => (c.get m).isPlaceholder

/-- The literals with the same parent as a resource, itself left out. An earlier one has a smaller
number, since siblings are numbered in their order. -/
def literalSiblings (c : Catalog) (id : Nat) : List Nat :=
  match (c.get id).parent with
  | none => []
  | some parent =>
    (c.get parent).children.filter fun k => k ≠ id && !(c.get k).isPlaceholder

variable {c : Catalog} {id parent : Nat}

theorem placeholdersOf_cons_placeholder {ids : List Nat} (hb : (c.get id).isPlaceholder = true) :
    c.placeholdersOf (id :: ids) = id :: c.placeholdersOf ids := List.filter_cons_of_pos hb

theorem placeholdersOf_cons_literal {ids : List Nat} (hlit : (c.get id).isPlaceholder = false) :
    c.placeholdersOf (id :: ids) = c.placeholdersOf ids :=
  List.filter_cons_of_neg (by simp [hlit])

namespace Rooted

theorem lineage_of_parent (h : Rooted c) (hid : (c.get id).parent = some parent) :
    c.lineage id = c.lineage parent ++ [id] := by
  rw [lineage, hid]
  exact if_pos (h.parent_lt id parent hid)

theorem parent_root (h : Rooted c) : (c.get root).parent = none := by
  cases hp : (c.get root).parent with
  | none => rfl
  | some parent => exact absurd (h.parent_lt root parent hp) (Nat.not_lt_zero parent)

theorem lineage_root (h : Rooted c) : c.lineage root = [] := by
  rw [lineage, h.parent_root]

/-- What holds of the root and goes over from parents to children holds of all resources. -/
theorem induction (h : Rooted c) {P : Nat → Prop} (hroot : P root)
    (hstep : ∀ id parent, (c.get id).parent = some parent → P parent → P id) (id : Nat)
    (hid : id < c.rows.size) : P id := by
  by_cases hne : id = root
  · exact hne ▸ hroot
  · obtain ⟨parent, hp⟩ := h.parent_of_ne id hid hne
    have hlt := h.parent_lt id parent hp
    exact hstep id parent hp (induction h hroot hstep parent (by omega))
termination_by id

theorem path_eq_joinPath (h : Rooted c) (hid : id < c.rows.size) :
    (c.get id).path = joinPath (c.namesOf (c.lineage id)) := by
  refine h.induction
    (P := fun id => (c.get id).path = joinPath (c.namesOf (c.lineage id))) ?_ ?_ id hid
  · rw [h.root_eq.1, h.lineage_root]
    rfl
  · intro id parent hp ih
    rw [h.path_eq id parent hp, ih, h.lineage_of_parent hp, namesOf, namesOf, List.map_append,
      List.map_singleton, joinPath_append]

/-- The key chain, which grows with the catalog, names the placeholders of the lineage. -/
theorem keyChain_eq_map (h : Rooted c) (hid : id < c.rows.size) :
    (c.get id).keyChain =
      (c.placeholdersOf (c.lineage id)).map fun m => (c.get m).indexName := by
  refine h.induction (P := fun id => (c.get id).keyChain =
    (c.placeholdersOf (c.lineage id)).map fun m => (c.get m).indexName) ?_ ?_ id hid
  · rw [h.root_eq.2, h.lineage_root]
    rfl
  · intro id parent hp ih
    rw [h.keyChain_eq id parent hp, ih, h.lineage_of_parent hp, extendChain, placeholdersOf,
      placeholdersOf, List.filter_append, List.map_append]
    cases hb : isPlaceholderName (c.get id).name <;>
      simp [hb, Resource.isPlaceholder, Resource.indexName]

theorem length_keyChain (h : Rooted c) (hid : id < c.rows.size) :
    (c.get id).keyChain.length = (c.namesOf (c.lineage id)).countP isPlaceholderName := by
  rw [h.keyChain_eq_map hid, List.length_map, placeholdersOf, namesOf,
    List.countP_map, List.countP_eq_length_filter]
  rfl

theorem mem_lineage (h : Rooted c) (hid : id < c.rows.size) :
    ∀ m ∈ c.lineage id, ∃ parent, (c.get m).parent = some parent := by
  refine h.induction (P := fun id => ∀ m ∈ c.lineage id, ∃ parent, (c.get m).parent = some parent)
    ?_ ?_ id hid
  · simp [h.lineage_root]
  · intro id parent hp ih m hm
    rw [h.lineage_of_parent hp] at hm
    rcases List.mem_append.mp hm with hm | hm
    · exact ih m hm
    · exact ⟨parent, List.mem_singleton.mp hm ▸ hp⟩

theorem lineage_eq_nil (h : Rooted c) (hid : id < c.rows.size) :
    c.lineage id = [] ↔ id = root := by
  constructor
  · intro hnil
    by_contra hne
    obtain ⟨parent, hp⟩ := h.parent_of_ne id hid hne
    simp [h.lineage_of_parent hp] at hnil
  · rintro rfl
    exact h.lineage_root

theorem mem_literalSiblings (h : Rooted c) {m k : Nat} (hm : (c.get m).parent = some parent) :
    k ∈ c.literalSiblings m ↔
      (c.get k).parent = some parent ∧ k ≠ m ∧ (c.get k).isPlaceholder = false := by
  rw [literalSiblings, hm]
  simp [h.mem_children]

end Rooted

end Catalog

end ApiAtlas.Resources
