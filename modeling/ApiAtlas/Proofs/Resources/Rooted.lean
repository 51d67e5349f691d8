import ApiAtlas.Proofs.Resources.Growth

/-!
# The shape of built catalogs

Every catalog on the way to a built one is a tree with the root at number 0: parents and children
agree, numbers grow away from the root, and names, paths and key chains of a resource continue those
of its parent. All of it is kept by the one step in which a catalog grows.
-/

namespace ApiAtlas.Resources

open Schema Descriptor Checks

namespace Catalog

variable {c : Catalog} {parent id : Nat}

/-! ## One step of growth -/

theorem get_of_le (h : c.rows.size ≤ id) : c.get id = {} := by
  simp [get, h]

theorem get_push_old (hid : id < c.rows.size) (hne : id ≠ parent) (r : Resource) :
    (c.push parent r).get id = c.get id := by
  apply get_of_getElem?
  rw [push, Array.getElem?_push, if_neg (by simp; omega), Array.getElem?_modify, if_neg hne.symm,
    getElem?_of_lt hid]

theorem get_push_parent (hp : parent < c.rows.size) (r : Resource) :
    (c.push parent r).get parent =
      { c.get parent with children := (c.get parent).children ++ [c.rows.size] } := by
  apply get_of_getElem?
  rw [push, Array.getElem?_push, if_neg (by simp; omega), Array.getElem?_modify, if_pos rfl,
    getElem?_of_lt hp]
  rfl

/-- A number of a catalog that has just grown is the new one, the parent or an old one. -/
theorem push_cases (hp : parent < c.rows.size) (r : Resource) (id : Nat) :
    (id = c.rows.size ∧ (c.push parent r).get id = r) ∨
      (id = parent ∧ (c.push parent r).get id =
        { c.get id with children := (c.get id).children ++ [c.rows.size] }) ∨
      (id ≠ c.rows.size ∧ id ≠ parent ∧ (c.push parent r).get id = c.get id) := by
  by_cases hnew : id = c.rows.size
  · exact .inl ⟨hnew, hnew ▸ get_push_new r⟩
  · by_cases hparent : id = parent
    · exact .inr (.inl ⟨hparent, hparent ▸ get_push_parent hp r⟩)
    · refine .inr (.inr ⟨hnew, hparent, ?_⟩)
      by_cases hid : id < c.rows.size
      · exact get_push_old hid hparent r
      · have hle : (c.push parent r).rows.size ≤ id := by rw [size_push]; omega
        rw [get_of_le hle, get_of_le (by omega)]

/-- A step of growth: an entry that passes its own checks below a resource. -/
structure Admits (c : Catalog) (parent : Nat) (entry : Cursor) (name path : String)
    (methods : List Method) : Prop where
  parent_lt : parent < c.rows.size
  header : entryHeader (c.get parent).path (c.placeholderName? parent) entry = .ok (name, path)
  methods_eq : entryMethods entry = .ok methods

/-- Adding an entry is an admitted step, followed by adding the entries below it one by one. -/
theorem addEntry_eq_ok {entry : Cursor} {c' : Catalog} (hp : parent < c.rows.size) :
    c.addEntry parent entry = .ok c' ↔
      ∃ name path methods list, c.Admits parent entry name path methods ∧
        entriesBelow entry = .ok list ∧
        list.foldlM (fun grown child => grown.addEntry c.rows.size child)
          (c.push parent (c.resourceBelow parent name path methods)) = .ok c' := by
  rw [addEntry_eq]
  simp only [bind_eq_ok, liftSchema_eq_ok, Prod.exists]
  constructor
  · rintro ⟨name, path, hh, methods, hm, list, hl, h⟩
    exact ⟨name, path, methods, list, ⟨hp, hh, hm⟩, hl, h⟩
  · rintro ⟨name, path, methods, list, ha, hl, h⟩
    exact ⟨name, path, ha.header, methods, ha.methods_eq, list, hl, h⟩

section Keeps

variable {P : Catalog → Prop}
variable (hpush : ∀ (c : Catalog) parent entry name path methods, P c →
  c.Admits parent entry name path methods →
    P (c.push parent (c.resourceBelow parent name path methods)))
include hpush

/-- What every admitted step keeps is kept by adding an entry with all entries below it. -/
theorem addEntry_keeps (entry : Cursor) {c c' : Catalog} {parent : Nat} (hc : P c)
    (hp : parent < c.rows.size) (h : c.addEntry parent entry = .ok c') :
    P c' ∧ c.rows.size < c'.rows.size := by
  obtain ⟨name, path, methods, list, ha, hl, h⟩ := (addEntry_eq_ok hp).mp h
  refine foldlM_keeps (P := fun grown => P grown ∧ c.rows.size < grown.rows.size) ?_
    ⟨hpush c parent entry name path methods hc ha, by rw [size_push]; omega⟩ h
  intro grown child grown' hmem hs hgrow
  have := sizeOf_lt_of_mem_entriesBelow hl hmem
  have hchild := addEntry_keeps child hs.1 hs.2 hgrow
  exact ⟨hchild.1, by omega⟩
termination_by sizeOf entry.value

/-- What holds of the root alone and is kept by every admitted step holds of every built catalog. -/
theorem build_induction (hempty : P empty) {document : Json} (h : build document = .ok c) :
    P c := by
  rw [build, bind_eq_ok] at h
  obtain ⟨entries, -, h⟩ := h
  refine (foldlM_keeps (P := fun grown => P grown ∧ root < grown.rows.size) ?_
    ⟨hempty, by simp [empty, root]⟩ h).1
  intro grown entry grown' hmem hs hgrow
  have hentry := addEntry_keeps hpush entry hs.1 hs.2 hgrow
  exact ⟨hentry.1, by omega⟩

end Keeps

/-! ## The invariant -/

/-- No two children of a resource have names that are in relation. -/
def SiblingsApart (c : Catalog) (R : String → String → Prop) : Prop :=
  ∀ a b parent, (c.get a).parent = some parent → (c.get b).parent = some parent →
    R (c.get a).name (c.get b).name → a = b

/-- The rows of a catalog are a tree with the root at number 0. -/
structure Rooted (c : Catalog) : Prop where
  root_lt : root < c.rows.size
  root_eq : (c.get root).path = "" ∧ (c.get root).keyChain = []
  parent_of_ne : ∀ id, id < c.rows.size → id ≠ root → ∃ parent, (c.get id).parent = some parent
  parent_lt : ∀ id parent, (c.get id).parent = some parent → parent < id
  mem_children : ∀ id parent, id ∈ (c.get parent).children ↔ (c.get id).parent = some parent
  sorted : ∀ parent, (c.get parent).children.Pairwise (· < ·)
  path_eq : ∀ id parent, (c.get id).parent = some parent →
    (c.get id).path = pathBelow (c.get parent).path (c.get id).name
  keyChain_eq : ∀ id parent, (c.get id).parent = some parent →
    (c.get id).keyChain = extendChain (c.get parent).keyChain (c.get id).name
  placeholder_unique : c.SiblingsApart fun a b =>
    isPlaceholderName a = true ∧ isPlaceholderName b = true

theorem rooted_empty : Rooted empty := by
  have hget : ∀ id, empty.get id = {} := by
    intro id
    cases id <;> simp [empty, get]
  constructor <;> intros <;> simp_all [SiblingsApart, empty, root]

/-- Besides the children, growth changes nothing of the resources that are there. -/
theorem field_push {β : Type} (hp : parent < c.rows.size) (r : Resource) (g : Resource → β)
    (hg : ∀ r children, g { r with children } = g r) (id : Nat) :
    g ((c.push parent r).get id) = if id = c.rows.size then g r else g (c.get id) := by
  rcases push_cases hp r id with ⟨rfl, h⟩ | ⟨rfl, h⟩ | ⟨hne, -, h⟩
  · simp [h]
  · rw [h, hg, if_neg (Nat.ne_of_lt hp)]
  · simp [h, hne]

theorem children_push (hp : parent < c.rows.size) (r : Resource) (id : Nat) :
    ((c.push parent r).get id).children =
      if id = c.rows.size then r.children
      else if id = parent then (c.get id).children ++ [c.rows.size] else (c.get id).children := by
  rcases push_cases hp r id with ⟨rfl, h⟩ | ⟨rfl, h⟩ | ⟨hne, hne', h⟩
  · simp [h]
  · simp [h, Nat.ne_of_lt hp]
  · simp [h, hne, hne']

theorem lt_size_of_parent (hid : (c.get id).parent = some parent) : id < c.rows.size := by
  by_contra hle
  rw [get_of_le (by omega)] at hid
  simp at hid

theorem Rooted.child_lt_size (h : Rooted c) (hid : id ∈ (c.get parent).children) :
    id < c.rows.size := lt_size_of_parent ((h.mem_children id parent).mp hid)

theorem Rooted.parent_push_cases (h : Rooted c) (hp : parent < c.rows.size) {r : Resource}
    (hr : r.parent = some parent) {p : Nat} (hid : ((c.push parent r).get id).parent = some p) :
    (id = c.rows.size ∧ p = parent) ∨
      (id < c.rows.size ∧ p < c.rows.size ∧ (c.get id).parent = some p) := by
  rw [field_push hp r (·.parent) fun _ _ => rfl] at hid
  split at hid
  · exact .inl ⟨‹_›, (Option.some.inj (hr.symm.trans hid)).symm⟩
  · have hlt := lt_size_of_parent hid
    exact .inr ⟨hlt, Nat.lt_trans (h.parent_lt id p hid) hlt, hid⟩

/-- Siblings stay apart if no child of the parent is in relation with the new one. -/
theorem Rooted.apart_push (h : Rooted c) (hp : parent < c.rows.size) {r : Resource}
    (hr : r.parent = some parent) {R : String → String → Prop} (hsymm : ∀ x y, R x y → R y x)
    (hnew : ∀ name ∈ c.childNames parent, ¬ R name r.name) (hapart : c.SiblingsApart R) :
    (c.push parent r).SiblingsApart R := by
  have hname := field_push hp r (·.name) fun _ _ => rfl
  have hfresh : ∀ id, (c.get id).parent = some parent → ¬ R (c.get id).name r.name := by
    intro id hid
    exact hnew _ (List.mem_map.mpr ⟨id, (h.mem_children id parent).mpr hid, rfl⟩)
  intro a b p hpa hpb hab
  rw [hname, hname] at hab
  rcases h.parent_push_cases hp hr hpa with ⟨rfl, rfl⟩ | ⟨hlta, -, holda⟩
  · rcases h.parent_push_cases hp hr hpb with ⟨rfl, -⟩ | ⟨hltb, -, holdb⟩
    · rfl
    · rw [if_pos rfl, if_neg (Nat.ne_of_lt hltb)] at hab
      exact absurd (hsymm _ _ hab) (hfresh b holdb)
  · rw [if_neg (Nat.ne_of_lt hlta)] at hab
    rcases h.parent_push_cases hp hr hpb with ⟨rfl, rfl⟩ | ⟨hltb, -, holdb⟩
    · rw [if_pos rfl] at hab
      exact absurd hab (hfresh a holda)
    · rw [if_neg (Nat.ne_of_lt hltb)] at hab
      exact hapart a b p holda holdb hab

/-- The new number is among the children of its parent and of no other resource. -/
theorem Rooted.mem_children_push (h : Rooted c) (hp : parent < c.rows.size) {r : Resource}
    (hr : r.parent = some parent) (hnone : r.children = []) (id p : Nat) :
    id ∈ ((c.push parent r).get p).children ↔ ((c.push parent r).get id).parent = some p := by
  rw [children_push hp, field_push hp r (·.parent) fun _ _ => rfl, hnone, hr]
  by_cases hpn : p = c.rows.size
  · rw [if_pos hpn]
    have hno : (c.get id).parent ≠ some p := by
      intro hid
      have := h.parent_lt id p hid
      have := lt_size_of_parent hid
      omega
    by_cases hidn : id = c.rows.size
    · simp [hidn, hpn, Nat.ne_of_lt hp]
    · simp [hidn, hno]
  · rw [if_neg hpn]
    by_cases hidn : id = c.rows.size
    · have hno : id ∉ (c.get p).children := fun hmem => absurd (h.child_lt_size hmem) (by omega)
      rw [if_pos hidn]
      by_cases hpp : p = parent
      · simp [hpp, hidn]
      · simp [hpp, hno, Ne.symm hpp]
    · rw [if_neg hidn, ← h.mem_children id p]
      split <;> simp [hidn]

theorem Rooted.sorted_push (h : Rooted c) (hp : parent < c.rows.size) {r : Resource}
    (hnone : r.children = []) (id : Nat) :
    ((c.push parent r).get id).children.Pairwise (· < ·) := by
  rw [children_push hp, hnone]
  split
  · exact .nil
  · split
    · refine List.pairwise_append.mpr ⟨h.sorted id, List.pairwise_singleton .., ?_⟩
      intro child hchild new hnew
      obtain rfl := List.mem_singleton.mp hnew
      exact h.child_lt_size hchild
    · exact h.sorted id

/-- What a child and its parent have in common, children apart, is kept if the new resource has it
with its parent. -/
theorem Rooted.edges_push (h : Rooted c) (hp : parent < c.rows.size) {r : Resource}
    (hr : r.parent = some parent) {E : Resource → Resource → Prop}
    (hE : ∀ a b children, E { a with children } b = E a b ∧ E a { b with children } = E a b)
    (hnew : E r (c.get parent))
    (hold : ∀ id p, (c.get id).parent = some p → E (c.get id) (c.get p)) (id p : Nat)
    (hid : ((c.push parent r).get id).parent = some p) :
    E ((c.push parent r).get id) ((c.push parent r).get p) := by
  rw [field_push hp r (fun a => E a _) fun a children => (hE a _ children).1,
    field_push hp r (fun b => E r b) fun b children => (hE r b children).2,
    field_push hp r (fun b => E (c.get id) b) fun b children => (hE _ b children).2]
  rcases h.parent_push_cases hp hr hid with ⟨rfl, rfl⟩ | ⟨hlt, hplt, hid⟩
  · rwa [if_pos rfl, if_neg (Nat.ne_of_lt hp)]
  · rw [if_neg (Nat.ne_of_lt hlt), if_neg (Nat.ne_of_lt hplt)]
    exact hold id p hid

/-- Every admitted step keeps the invariant. -/
theorem Rooted.push (h : Rooted c) {entry : Cursor} {name path : String} {methods : List Method}
    (ha : c.Admits parent entry name path methods) :
    Rooted (c.push parent (c.resourceBelow parent name path methods)) := by
  have hp := ha.parent_lt
  obtain ⟨-, -, hpath, hfree⟩ := entryHeader_eq_ok.mp ha.header
  have hlt := h.root_lt
  set r := c.resourceBelow parent name path methods
  constructor
  case root_lt =>
    rw [size_push]
    omega
  case root_eq =>
    rw [field_push hp r (·.path) fun _ _ => rfl, field_push hp r (·.keyChain) fun _ _ => rfl,
      if_neg (by omega), if_neg (by omega)]
    exact h.root_eq
  case parent_of_ne =>
    intro id hid hne
    rw [field_push hp r (·.parent) fun _ _ => rfl]
    rw [size_push] at hid
    split
    · exact ⟨parent, rfl⟩
    · exact h.parent_of_ne id (by omega) hne
  case parent_lt =>
    intro id p hid
    rcases h.parent_push_cases hp rfl hid with ⟨rfl, rfl⟩ | ⟨-, -, hold⟩
    · exact hp
    · exact h.parent_lt id p hold
  case mem_children => exact h.mem_children_push hp rfl rfl
  case sorted => exact h.sorted_push hp rfl
  case path_eq =>
    exact h.edges_push hp rfl (E := fun a b => a.path = pathBelow b.path a.name)
      (fun _ _ _ => ⟨rfl, rfl⟩) hpath h.path_eq
  case keyChain_eq =>
    exact h.edges_push hp rfl (E := fun a b => a.keyChain = extendChain b.keyChain a.name)
      (fun _ _ _ => ⟨rfl, rfl⟩) rfl h.keyChain_eq
  case placeholder_unique =>
    refine h.apart_push hp rfl (fun _ _ => And.symm) ?_ h.placeholder_unique
    rintro other hmem ⟨hother, hname⟩
    have hnone := hfree hname
    rw [placeholderName?_eq, List.find?_eq_none] at hnone
    exact hnone other hmem hother

theorem build_rooted {document : Json} (h : build document = .ok c) : Rooted c :=
  build_induction (fun _ _ _ _ _ _ h ha => h.push ha) rooted_empty h

end Catalog

end ApiAtlas.Resources
