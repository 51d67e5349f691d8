import ApiAtlas.Proofs.Resources.Keys
import ApiAtlas.Proofs.Resources.NestedView
import Mathlib.Data.Finset.Card
import Mathlib.Logic.Relation

/-!
# Depth-first numbers

In a built catalog the resources below one are the run of numbers right behind its own. A traversal
with a stack visits this run from its first number to its last, and the nested view shows the same
resources in the same order.
-/

namespace ApiAtlas.Resources

namespace Outline

/-- An induction that goes into the first outline of a list and along the rest. -/
theorem list_induction {P : List Outline → Prop} (nil : P [])
    (cons : ∀ name path methods children rest, P children → P rest →
      P (.node name path methods children :: rest)) : ∀ outlines, P outlines
  | [] => nil
  | .node name path methods children :: rest =>
    cons name path methods children rest (list_induction nil cons children)
      (list_induction nil cons rest)

theorem range'_sizes_cons (first : Nat) (o : Outline) (rest : List Outline) :
    List.range' first (sizes (o :: rest)) =
      List.range' first o.size ++ List.range' (first + o.size) (sizes rest) := by
  rw [List.range'_append_1]
  rfl

theorem range'_size_node (first : Nat) {name path : String} {methods : List Descriptor.Method}
    {children : List Outline} : List.range' first (size (.node name path methods children)) =
      first :: List.range' (first + 1) (sizes children) := by
  rw [size, List.range'_succ]

end Outline

namespace Branch

mutual

def resources : Branch → List Resource
  | .node r children => r :: allResources children

def allResources : List Branch → List Resource
  | [] => []
  | b :: rest => resources b ++ allResources rest

end

theorem allResources_within (c : Catalog) (depth id : Nat) :
    allResources (within c (depth + 1) id) = (c.get id).children.flatMap fun child =>
      c.get child :: allResources (within c depth child) := by
  rw [within]
  induction (c.get id).children with
  | nil => rfl
  | cons child rest ih => rw [List.map_cons, allResources, ih, List.flatMap_cons, resources]

end Branch

namespace Catalog

variable {c : Catalog} {id parent first : Nat} {chain : List String} {outlines : List Outline}

/-! ## Runs of numbers -/

/-- The outlines that stand right behind a resource are those of its children. -/
def HoldsBelow (c : Catalog) (id : Nat) (outlines : List Outline) : Prop :=
  (c.get id).children = childIds (id + 1) outlines ∧ ∃ chain, c.Holds (id + 1) id chain outlines

theorem Holds.holdsBelow {name path : String} {methods : List Descriptor.Method}
    {children rest : List Outline}
    (h : c.Holds first parent chain (.node name path methods children :: rest)) :
    c.HoldsBelow first children :=
  ⟨by rw [h.head], _, h.below⟩

/-- Each number in the run of some outlines has its own run within theirs. -/
theorem Holds.inside (h : c.Holds first parent chain outlines) (hfirst : first ≤ id)
    (hid : id < first + Outline.sizes outlines) :
    ∃ inner, c.HoldsBelow id inner ∧
      id + Outline.sizes inner < first + Outline.sizes outlines := by
  induction outlines using Outline.list_induction generalizing first parent chain with
  | nil =>
    rw [Outline.sizes] at hid
    omega
  | cons name path methods children rest ihchildren ihrest =>
    simp only [Outline.sizes, Outline.size] at hid ⊢
    rcases Nat.lt_trichotomy id first with hlt | rfl | hlt
    · omega
    · exact ⟨children, h.holdsBelow, by omega⟩
    · by_cases hend : id < first + 1 + Outline.sizes children
      · obtain ⟨inner, hinner, hle⟩ := ihchildren h.below hlt hend
        exact ⟨inner, hinner, by omega⟩
      · have htail := h.tail
        rw [Outline.size] at htail
        obtain ⟨inner, hinner, hle⟩ := ihrest htail (by omega) (by omega)
        exact ⟨inner, hinner, by omega⟩

/-- The parents of the resources in the run of some outlines are in the run or the one above. -/
theorem Holds.le_parent (h : c.Holds first parent chain outlines) (habove : parent < first)
    (hfirst : first ≤ id) (hid : id < first + Outline.sizes outlines) :
    ∃ p, (c.get id).parent = some p ∧ parent ≤ p ∧ p < id := by
  induction outlines using Outline.list_induction generalizing first parent chain with
  | nil =>
    rw [Outline.sizes] at hid
    omega
  | cons name path methods children rest ihchildren ihrest =>
    simp only [Outline.sizes, Outline.size] at hid
    rcases Nat.lt_trichotomy id first with hlt | rfl | hlt
    · omega
    · exact ⟨parent, by rw [h.head], Nat.le_refl parent, habove⟩
    · by_cases hend : id < first + 1 + Outline.sizes children
      · obtain ⟨p, hp, hle, hlt⟩ := ihchildren h.below (by omega) hlt hend
        exact ⟨p, hp, by omega, hlt⟩
      · have htail := h.tail
        rw [Outline.size] at htail
        exact ihrest htail (by omega) (by omega) (by omega)

theorem build_holdsBelow_root {document : Json} (h : build document = .ok c) :
    ∃ outlines, c.HoldsBelow root outlines ∧ c.rows.size = 1 + Outline.sizes outlines := by
  rw [build_refines, Checks.map_eq_ok] at h
  obtain ⟨outlines, -, rfl⟩ := h
  exact ⟨outlines, ⟨children_graft_empty outlines, [], holds_graft_empty outlines⟩,
    size_graft outlines⟩

theorem build_holdsBelow {document : Json} (h : build document = .ok c)
    (hid : id < c.rows.size) :
    ∃ outlines, c.HoldsBelow id outlines ∧ id + Outline.sizes outlines < c.rows.size := by
  obtain ⟨outlines, hroot, hsize⟩ := build_holdsBelow_root h
  by_cases hne : id = root
  · exact ⟨outlines, hne ▸ hroot, by rw [hne, root]; omega⟩
  · obtain ⟨-, chain, hholds⟩ := hroot
    rw [hsize] at hid ⊢
    exact hholds.inside (Nat.one_le_iff_ne_zero.mpr hne) hid

/-! ## The traversal -/

@[simp] theorem pushAll_reverse (stack ids : List Nat) :
    pushAll stack ids.reverse = ids ++ stack := by
  rw [pushAll, List.foldl_reverse]
  induction ids with
  | nil => rfl
  | cons id ids ih => rw [List.foldr_cons, ih, List.cons_append]

namespace Traversal

theorem run_add (m n : Nat) (t : Traversal) : run c (m + n) t = run c n (run c m t) := by
  induction m generalizing t with
  | zero => rw [Nat.zero_add, run]
  | succ m ih => rw [Nat.succ_add, run, ih, run]

theorem run_nil (n : Nat) (visited : List Nat) :
    run c n ⟨[], visited⟩ = ⟨[], visited⟩ := by
  induction n with
  | zero => rfl
  | succ n ih => rw [run, visit, ih]

/-- A traversal that has the roots of some outlines on top of its stack visits the run of these
outlines and goes on with the rest of the stack. -/
theorem run_of_holds (h : c.Holds first parent chain outlines) (stack visited : List Nat) :
    run c (Outline.sizes outlines) ⟨childIds first outlines ++ stack, visited⟩ =
      ⟨stack, visited ++ List.range' first (Outline.sizes outlines)⟩ := by
  induction outlines using Outline.list_induction
    generalizing first parent chain stack visited with
  | nil => simp [Outline.sizes, childIds, run]
  | cons name path methods children rest ihchildren ihrest =>
    have hcount : Outline.sizes (.node name path methods children :: rest) =
        1 + Outline.sizes children + Outline.sizes rest := by
      simp only [Outline.sizes, Outline.size]
      omega
    have hvisit : run c 1 ⟨childIds first (.node name path methods children :: rest) ++ stack,
        visited⟩ =
        ⟨childIds (first + 1) children ++ (childIds (first + Outline.size
          (.node name path methods children)) rest ++ stack), visited ++ [first]⟩ := by
      simp only [run, childIds, List.cons_append, visit, pushAll_reverse]
      rw [h.holdsBelow.1]
    rw [hcount, run_add, run_add, hvisit, ihchildren h.below, ihrest h.tail, ← hcount,
      Outline.range'_sizes_cons, Outline.range'_size_node]
    simp

theorem run_start (h : c.HoldsBelow id outlines) :
    run c (Outline.sizes outlines) (start c id) =
      ⟨[], List.range' (id + 1) (Outline.sizes outlines)⟩ := by
  obtain ⟨hchildren, chain, hholds⟩ := h
  have hrun := run_of_holds hholds [] []
  rwa [← hchildren, ← pushAll_reverse, List.nil_append] at hrun

end Traversal

theorem descendants_eq_range' (h : c.HoldsBelow id outlines)
    (hsize : Outline.sizes outlines ≤ c.rows.size) :
    c.descendants id = List.range' (id + 1) (Outline.sizes outlines) := by
  obtain ⟨spare, hspare⟩ := Nat.exists_eq_add_of_le hsize
  rw [descendants, hspare, Traversal.run_add, Traversal.run_start h, Traversal.run_nil]

/-- The root and the resources below it are all resources, in the order of their numbers. -/
theorem cons_descendants_root {document : Json} (h : build document = .ok c) :
    root :: c.descendants root = List.range c.rows.size := by
  obtain ⟨outlines, hbelow, hsize⟩ := build_holdsBelow_root h
  rw [descendants_eq_range' hbelow (by omega), hsize, List.range_eq_range', Nat.add_comm 1,
    List.range'_succ]
  rfl

/-! ## The nested view -/

theorem resources_of_holds (depth : Nat) (h : c.Holds first parent chain outlines)
    (hdepth : Outline.sizes outlines ≤ depth + 1) :
    ((childIds first outlines).flatMap fun child =>
        c.get child :: Branch.allResources (Branch.within c depth child)) =
      (List.range' first (Outline.sizes outlines)).map c.get := by
  induction outlines using Outline.list_induction generalizing depth first parent chain with
  | nil => rfl
  | cons name path methods children rest ihchildren ihrest =>
    have hsize : Outline.sizes children + 1 + Outline.sizes rest ≤ depth + 1 := hdepth
    have hbelow : Branch.allResources (Branch.within c depth first) =
        (List.range' (first + 1) (Outline.sizes children)).map c.get := by
      cases depth with
      | zero =>
        have hnone : Outline.sizes children = 0 := by omega
        rw [hnone]
        rfl
      | succ depth =>
        rw [Branch.allResources_within, h.holdsBelow.1]
        exact ihchildren depth h.below (by omega)
    rw [childIds, List.flatMap_cons, hbelow, ihrest depth h.tail (by omega),
      Outline.range'_sizes_cons, Outline.range'_size_node, List.map_append, List.map_cons]

theorem resources_within (h : c.HoldsBelow id outlines)
    (hsize : Outline.sizes outlines < c.rows.size) :
    Branch.allResources (Branch.within c c.rows.size id) =
      (List.range' (id + 1) (Outline.sizes outlines)).map c.get := by
  obtain ⟨depth, hdepth⟩ := Nat.exists_eq_succ_of_ne_zero (Nat.ne_zero_of_lt hsize)
  obtain ⟨hchildren, chain, hholds⟩ := h
  rw [hdepth, Branch.allResources_within, hchildren]
  exact resources_of_holds depth hholds (by omega)

/-! ## The tree -/

/-- Whether a resource lies below another, as a child or deeper. -/
def IsBelow (c : Catalog) (id above : Nat) : Prop :=
  Relation.TransGen (fun m p => (c.get m).parent = some p) id above

/-- The resources below one are those in its run. -/
theorem HoldsBelow.mem_range'_iff (h : c.HoldsBelow id outlines) (hr : Rooted c) (m : Nat) :
    m ∈ List.range' (id + 1) (Outline.sizes outlines) ↔ c.IsBelow m id := by
  obtain ⟨hchildren, chain, hholds⟩ := h
  rw [List.mem_range'_1]
  constructor
  · intro hm
    induction m using Nat.strongRecOn with
    | ind m ih =>
      obtain ⟨p, hp, hle, hlt⟩ := hholds.le_parent (Nat.lt_succ_self id) hm.1 hm.2
      rcases Nat.eq_or_lt_of_le hle with rfl | hlt'
      · exact .single hp
      · exact .head hp (ih p hlt ⟨hlt', by omega⟩)
  · intro hbelow
    induction hbelow using Relation.TransGen.head_induction_on with
    | single hp =>
      have hmem := (hr.mem_children _ _).mpr hp
      rw [hchildren] at hmem
      exact childIds_bounds hmem
    | head hp _ ih =>
      obtain ⟨inner, hinner, hle⟩ := hholds.inside ih.1 ih.2
      have hmem := (hr.mem_children _ _).mpr hp
      rw [hinner.1] at hmem
      have := childIds_bounds hmem
      omega

/-- A resource is a child of its parent alone, there only once, and continues its path and its key
chain. -/
structure HangsFrom (c : Catalog) (id parent : Nat) : Prop where
  parent_eq : (c.get id).parent = some parent
  parent_lt : parent < id
  count_children : ∀ p, (c.get p).children.count id = if p = parent then 1 else 0
  path_eq : (c.get id).path = (c.get parent).path ++ "/" ++ (c.get id).name
  keyChain_eq : (c.get id).keyChain = (c.get parent).keyChain ++
    if (c.get id).isPlaceholder then [(c.get id).indexName] else []

namespace Rooted

theorem nodup_children (h : Rooted c) (id : Nat) : (c.get id).children.Nodup :=
  (h.sorted id).imp Nat.ne_of_lt

theorem hangsFrom (h : Rooted c) (hp : (c.get id).parent = some parent) :
    c.HangsFrom id parent where
  parent_eq := hp
  parent_lt := h.parent_lt id parent hp
  count_children p := by
    rw [(h.nodup_children p).count]
    simp only [h.mem_children, hp, Option.some.injEq, eq_comm]
  path_eq := h.path_eq id parent hp
  keyChain_eq := by
    rw [h.keyChain_eq id parent hp, extendChain]
    cases hb : isPlaceholderName (c.get id).name <;>
      simp [hb, Resource.isPlaceholder, Resource.indexName]

theorem countP_placeholder_le_one (h : Rooted c) (id : Nat) :
    (c.get id).children.countP (fun k => (c.get k).isPlaceholder) ≤ 1 := by
  rw [List.countP_eq_length_filter,
    ← List.toFinset_card_of_nodup ((h.nodup_children id).filter _), Finset.card_le_one]
  intro a ha b hb
  simp only [List.mem_toFinset, List.mem_filter, h.mem_children] at ha hb
  exact h.placeholder_unique a b id ha.1 hb.1 ⟨ha.2, hb.2⟩

end Rooted

/-- The rows of a built catalog are a tree with the root at number 0, in depth-first order. Every
other resource hangs from exactly one parent, with a smaller number; a resource has at most one
placeholder below it. The traversal of the resources below one ends with an empty stack after as
many visits as there are such resources, and it visits them by their numbers, which follow that of
the resource above them and are in the order of the nested view. -/
theorem build_depthFirst {document : Json} (h : build document = .ok c) :
    (∀ id, id < c.rows.size → id ≠ root → ∃ parent, c.HangsFrom id parent) ∧
      (∀ p, ∀ child ∈ (c.get p).children, child ≠ root ∧ child < c.rows.size) ∧
      (∀ id, (c.get id).children.countP (fun k => (c.get k).isPlaceholder) ≤ 1) ∧
      (∀ id, id < c.rows.size → ∃ count,
        Traversal.run c count (Traversal.start c id) = ⟨[], List.range' (id + 1) count⟩ ∧
          c.descendants id = List.range' (id + 1) count ∧
          (∀ m, m ∈ List.range' (id + 1) count ↔ c.IsBelow m id) ∧
          Branch.allResources (Branch.within c c.rows.size id) =
            (List.range' (id + 1) count).map c.get) ∧
      (c.descendants root).length = c.size := by
  have hr := build_rooted h
  refine ⟨fun id hid hne => ?_, fun p child hchild => ?_, hr.countP_placeholder_le_one,
    fun id hid => ?_, ?_⟩
  · obtain ⟨parent, hp⟩ := hr.parent_of_ne id hid hne
    exact ⟨parent, hr.hangsFrom hp⟩
  · have hp := (hr.mem_children child p).mp hchild
    exact ⟨Nat.ne_zero_of_lt (hr.parent_lt child p hp), hr.child_lt_size hchild⟩
  · obtain ⟨outlines, hbelow, hend⟩ := build_holdsBelow h hid
    exact ⟨Outline.sizes outlines, Traversal.run_start hbelow,
      descendants_eq_range' hbelow (by omega), hbelow.mem_range'_iff hr,
      resources_within hbelow (by omega)⟩
  · obtain ⟨outlines, hbelow, hsize⟩ := build_holdsBelow_root h
    rw [descendants_eq_range' hbelow (by omega), List.length_range', size]
    omega

theorem build_depthFirst_nodes : ∃ c, build nodesDocument = .ok c ∧
    (∃ parent, c.HangsFrom 4 parent) ∧
      Traversal.run c 4 (Traversal.start c root) = ⟨[], [1, 2, 3, 4]⟩ := by
  obtain ⟨c, hc, hsize⟩ := exists_built nodesDocument (P := fun c => c.rows.size = 5)
    (by decide +kernel)
  obtain ⟨hhangs, -, -, hvisits, hlength⟩ := build_depthFirst hc
  obtain ⟨count, hrun, hdescendants, -⟩ := hvisits root (by rw [hsize, root]; decide)
  have hcount : count = 4 := by
    rwa [hdescendants, List.length_range', size, hsize] at hlength
  subst hcount
  exact ⟨c, hc, hhangs 4 (by omega) (by decide), hrun⟩

end Catalog

end ApiAtlas.Resources
