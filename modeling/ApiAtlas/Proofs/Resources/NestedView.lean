import ApiAtlas.Proofs.Resources.Growth

/-!
# The nested view of a catalog

The nested view of a catalog looks its resources up by number, children in order. Where outlines are
laid out as a run of rows, the view shows these outlines again, and a catalog has more resources
than any of its paths, so the depth to which the view goes leaves nothing out.
-/

namespace ApiAtlas.Resources

open Schema Descriptor Checks

namespace Branch

mutual

/-- What a branch shows of its resources besides the numbers. -/
def outline : Branch → Outline
  | .node r children => .node r.name r.path r.methods (outlines children)

def outlines : List Branch → List Outline
  | [] => []
  | b :: rest => outline b :: outlines rest

end

theorem outlines_eq_map (branches : List Branch) : outlines branches = branches.map outline := by
  induction branches with
  | nil => rfl
  | cons b rest ih => rw [outlines, ih, List.map_cons]

end Branch

namespace Catalog

variable {c : Catalog}

/-- The rows of outlines stand in a catalog from a number on. -/
def Holds (c : Catalog) (first parent : Nat) (chain : List String) (outlines : List Outline) :
    Prop :=
  ∀ i r, (rowsOfList first parent chain outlines)[i]? = some r → c.rows[first + i]? = some r

theorem Holds.head {first parent : Nat} {chain : List String} {name path : String}
    {methods : List Method} {children rest : List Outline}
    (h : c.Holds first parent chain (.node name path methods children :: rest)) :
    c.get first = {
      name, path, keyChain := extendChain chain name, methods,
      children := childIds (first + 1) children, parent := some parent } :=
  get_of_getElem? (h 0 _ (by simp [rowsOfList, rowsOf]))

theorem Holds.below {first parent : Nat} {chain : List String} {name path : String}
    {methods : List Method} {children rest : List Outline}
    (h : c.Holds first parent chain (.node name path methods children :: rest)) :
    c.Holds (first + 1) first (extendChain chain name) children := by
  intro i r hr
  have hlt := (List.getElem?_eq_some_iff.mp hr).choose
  have := h (i + 1) r (by
    rw [rowsOfList, rowsOf, List.cons_append, List.getElem?_cons_succ,
      List.getElem?_append_left hlt]
    exact hr)
  rwa [Nat.add_assoc, Nat.add_comm 1 i]

theorem Holds.tail {first parent : Nat} {chain : List String} {o : Outline} {rest : List Outline}
    (h : c.Holds first parent chain (o :: rest)) :
    c.Holds (first + o.size) parent chain rest := by
  intro i r hr
  have := h (o.size + i) r (by
    rw [rowsOfList, List.getElem?_append_right (by rw [length_rowsOf]; omega), length_rowsOf,
      Nat.add_sub_cancel_left]
    exact hr)
  rwa [Nat.add_assoc]

theorem holds_graft_empty (outlines : List Outline) :
    (empty.graft root outlines).Holds 1 root [] outlines := by
  intro i r hr
  exact (getElem?_graft_new empty root outlines i).trans hr

theorem children_graft_empty (outlines : List Outline) :
    ((empty.graft root outlines).get root).children = childIds 1 outlines := by
  rw [get_graft_self (by simp [empty, root])]
  simp [empty, root, get]

/-- What the nested view shows of the resources with these numbers. -/
def shown (c : Catalog) (depth : Nat) (ids : List Nat) : List Outline :=
  ids.map fun id => (Branch.node (c.get id) (Branch.within c depth id)).outline

theorem outlines_within (depth id : Nat) :
    Branch.outlines (Branch.within c (depth + 1) id) = c.shown depth (c.get id).children := by
  rw [Branch.outlines_eq_map, Branch.within, List.map_map]
  rfl

theorem shown_cons (depth id : Nat) (ids : List Nat) :
    c.shown depth (id :: ids) =
      .node (c.get id).name (c.get id).path (c.get id).methods
        (Branch.outlines (Branch.within c depth id)) :: c.shown depth ids := rfl

/-- Outlines that are laid out below a resource are shown as they are by a view that goes deep
enough. The outer induction is on the depth of the view, the inner one goes along the outlines. -/
theorem outlines_within_of_holds (depth : Nat) {id first parent : Nat} {chain : List String}
    {outlines : List Outline} (hid : (c.get id).children = childIds first outlines)
    (h : c.Holds first parent chain outlines) (hd : Outline.sizes outlines ≤ depth) :
    Branch.outlines (Branch.within c depth id) = outlines := by
  induction depth generalizing id first parent chain outlines with
  | zero =>
    cases outlines with
    | nil => rfl
    | cons o rest =>
      have := o.size_pos
      simp only [Outline.sizes] at hd
      omega
  | succ depth ih =>
    rw [outlines_within, hid]
    clear hid
    induction outlines generalizing first with
    | nil => rfl
    | cons o rest ihrest =>
      obtain ⟨name, path, methods, children⟩ := o
      simp only [Outline.sizes, Outline.size] at hd
      have hbelow : Branch.outlines (Branch.within c depth first) = children :=
        ih (by rw [h.head]) h.below (by omega)
      rw [childIds, shown_cons, hbelow, ihrest h.tail (by omega), h.head]

/-- The nested view of the catalog of some outlines shows these outlines. -/
theorem outlines_branches (outlines : List Outline) :
    Branch.outlines (empty.graft root outlines).branches = outlines := by
  apply outlines_within_of_holds _ (children_graft_empty outlines) (holds_graft_empty outlines)
  rw [size_graft]
  omega

/-- A built catalog shows what the nested reading of the document makes of it, and building fails
exactly as the nested reading does. -/
theorem outlines_build (document : Json) :
    (fun c => Branch.outlines c.branches) <$> build document = Outline.ofDocument document := by
  rw [build_refines]
  cases Outline.ofDocument document with
  | error e => rfl
  | ok outlines => exact congrArg Except.ok (outlines_branches outlines)

end Catalog

end ApiAtlas.Resources
