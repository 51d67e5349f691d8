import ApiAtlas.Proofs.Checks
import ApiAtlas.Resources.Catalog
import ApiAtlas.Resources.Outline

/-!
# How a catalog grows

Adding an entry to a catalog appends one run of rows and one child of the parent: the rows are those
of the outline that the nested reading makes of the entry. The placeholder that the nested reading
remembers while it goes along a list is the one that the growing catalog holds below the parent, so
both fail at the same entry with the same complaint.
-/

namespace ApiAtlas.Resources

open Schema Descriptor Checks

/-- The numbers of sibling outlines, the first of which has a given number. -/
def childIds (first : Nat) : List Outline → List Nat
  | [] => []
  | o :: rest => first :: childIds (first + o.size) rest

mutual

/-- The resources of an outline, numbered from `id` on. -/
def rowsOf (id parent : Nat) (chain : List String) : Outline → List Resource
  | .node name path methods children =>
    let keyChain := extendChain chain name
    { name, path, keyChain, methods, children := childIds (id + 1) children, parent := some parent }
      :: rowsOfList (id + 1) id keyChain children

/-- The resources of sibling outlines, numbered from `id` on. -/
def rowsOfList (id parent : Nat) (chain : List String) : List Outline → List Resource
  | [] => []
  | o :: rest => rowsOf id parent chain o ++ rowsOfList (id + o.size) parent chain rest

end

mutual

theorem length_rowsOf (id parent : Nat) (chain : List String) (o : Outline) :
    (rowsOf id parent chain o).length = o.size := by
  obtain ⟨name, path, methods, children⟩ := o
  simp [rowsOf, Outline.size, length_rowsOfList]

theorem length_rowsOfList (id parent : Nat) (chain : List String) (outlines : List Outline) :
    (rowsOfList id parent chain outlines).length = Outline.sizes outlines := by
  cases outlines with
  | nil => rfl
  | cons o rest => simp [rowsOfList, Outline.sizes, length_rowsOf, length_rowsOfList]

end

theorem Outline.size_pos (o : Outline) : 0 < o.size := by
  obtain ⟨name, path, methods, children⟩ := o
  simp [size]

theorem childIds_bounds {first id : Nat} {outlines : List Outline}
    (h : id ∈ childIds first outlines) : first ≤ id ∧ id < first + Outline.sizes outlines := by
  induction outlines generalizing first with
  | nil => simp [childIds] at h
  | cons o rest ih =>
    have hs := o.size_pos
    simp only [childIds, List.mem_cons] at h
    simp only [Outline.sizes]
    rcases h with rfl | h
    · omega
    · have := ih h
      omega

theorem liftSchema_eq_ok {α : Type} {x : Except SchemaError α} {a : α} :
    liftSchema x = .ok a ↔ x = .ok a := by
  cases x <;> simp [liftSchema, Except.mapError]

theorem Outline.ofEntry_eq_ok {parent : String} {earlier : Option String} {entry : Cursor}
    {o : Outline} : ofEntry parent earlier entry = .ok o ↔
      ∃ name path methods list children,
        entryHeader parent earlier entry = .ok (name, path) ∧ entryMethods entry = .ok methods ∧
          entriesBelow entry = .ok list ∧
          (withEarlier none list).mapM (fun (seen, child) => ofEntry path seen child) =
            .ok children ∧ o = .node name path methods children := by
  rw [ofEntry_eq]
  simp only [bind_eq_ok, liftSchema_eq_ok, Prod.exists, pure, Except.pure, Except.ok.injEq]
  constructor
  · rintro ⟨name, path, hh, methods, hm, list, hl, children, hc, rfl⟩
    exact ⟨name, path, methods, list, children, hh, hm, hl, hc, rfl⟩
  · rintro ⟨name, path, methods, list, children, hh, hm, hl, hc, rfl⟩
    exact ⟨name, path, hh, methods, hm, list, hl, children, hc, rfl⟩

theorem Outline.name_of_ofEntry {parent : String} {earlier : Option String} {entry : Cursor}
    {o : Outline} (h : ofEntry parent earlier entry = .ok o) :
    entry.text? "text" = some o.name := by
  obtain ⟨name, path, methods, list, children, hh, -, -, -, rfl⟩ := ofEntry_eq_ok.mp h
  exact (entryHeader_eq_ok.mp hh).1

/-! ## Changing one row -/

theorem modify_append_left {α : Type} {xs ys : Array α} {i : Nat} {f : α → α} (h : i < xs.size) :
    (xs ++ ys).modify i f = xs.modify i f ++ ys := by
  apply Array.ext_getElem?
  intro j
  by_cases hj : j < xs.size
  · rw [Array.getElem?_modify, Array.getElem?_append_left hj,
      Array.getElem?_append_left (by simpa using hj), Array.getElem?_modify]
  · have hne : i ≠ j := by omega
    rw [Array.getElem?_modify, if_neg hne, Array.getElem?_append_right (by omega),
      Array.getElem?_append_right (by simpa using hj)]
    simp

theorem modify_modify {α : Type} {xs : Array α} {i : Nat} {f g : α → α} :
    (xs.modify i f).modify i g = xs.modify i fun x => g (f x) := by
  apply Array.ext_getElem?
  intro j
  simp only [Array.getElem?_modify]
  split <;> simp [Function.comp_def]

theorem modify_push_last {α : Type} {xs : Array α} {x : α} {f : α → α} {i : Nat}
    (h : i = xs.size) : (xs.push x).modify i f = xs.push (f x) := by
  subst h
  apply Array.ext_getElem?
  intro j
  rw [Array.getElem?_modify, Array.getElem?_push, Array.getElem?_push]
  by_cases hj : j = xs.size
  · simp [hj]
  · simp [hj, Ne.symm hj]

/-! ## Grafts -/

namespace Catalog

variable {c : Catalog} {id parent : Nat}

/-- The catalog with outlines added below a resource, behind the children that are there. -/
def graft (c : Catalog) (parent : Nat) (outlines : List Outline) : Catalog :=
  ⟨(c.rows.modify parent fun r =>
      { r with children := r.children ++ childIds c.rows.size outlines }) ++
    (rowsOfList c.rows.size parent (c.get parent).keyChain outlines).toArray⟩

theorem get_of_getElem? {r : Resource} (h : c.rows[id]? = some r) : c.get id = r := by
  simp [get, h]

theorem getElem?_of_lt (h : id < c.rows.size) : c.rows[id]? = some (c.get id) := by
  simp [get, h]

theorem size_graft (outlines : List Outline) :
    (c.graft parent outlines).rows.size = c.rows.size + Outline.sizes outlines := by
  simp [graft, length_rowsOfList]

theorem get_graft_self (hp : parent < c.rows.size) (outlines : List Outline) :
    (c.graft parent outlines).get parent =
      { c.get parent with
        children := (c.get parent).children ++ childIds c.rows.size outlines } := by
  apply get_of_getElem?
  have hlt : parent < (c.rows.modify parent fun r =>
      { r with children := r.children ++ childIds c.rows.size outlines }).size := by simpa using hp
  rw [graft, Array.getElem?_append_left hlt, Array.getElem?_modify, getElem?_of_lt hp]
  simp

theorem get_graft_of_ne (hid : id < c.rows.size) (hne : id ≠ parent) (outlines : List Outline) :
    (c.graft parent outlines).get id = c.get id := by
  apply get_of_getElem?
  have hlt : id < (c.rows.modify parent fun r =>
      { r with children := r.children ++ childIds c.rows.size outlines }).size := by simpa using hid
  rw [graft, Array.getElem?_append_left hlt, Array.getElem?_modify, getElem?_of_lt hid]
  simp [hne.symm]

/-- The new resources stand behind the old ones in the order of the outlines. -/
theorem getElem?_graft_new (c : Catalog) (parent : Nat) (outlines : List Outline) (i : Nat) :
    (c.graft parent outlines).rows[c.rows.size + i]? =
      (rowsOfList c.rows.size parent (c.get parent).keyChain outlines)[i]? := by
  rw [graft, Array.getElem?_append_right (by simp)]
  simp

theorem graft_nil : c.graft parent [] = c := by
  obtain ⟨rows⟩ := c
  simp only [graft, childIds, rowsOfList, List.append_nil, Array.append_empty]
  congr 1
  exact Array.ext_getElem? fun i => by simp [Array.getElem?_modify]

theorem graft_cons (hp : parent < c.rows.size) (o : Outline) (rest : List Outline) :
    (c.graft parent [o]).graft parent rest = c.graft parent (o :: rest) := by
  have hsize : (c.graft parent [o]).rows.size = c.rows.size + o.size := by
    simp [size_graft, Outline.sizes]
  have hchain : ((c.graft parent [o]).get parent).keyChain = (c.get parent).keyChain := by
    rw [get_graft_self hp]
  rw [graft, hsize, hchain, graft, graft, modify_append_left (by simpa using hp), modify_modify,
    Array.append_assoc]
  simp [childIds, rowsOfList]

theorem size_push (r : Resource) : (c.push parent r).rows.size = c.rows.size + 1 := by
  simp [push]

theorem get_push_new (r : Resource) : (c.push parent r).get c.rows.size = r := by
  apply get_of_getElem?
  rw [push, Array.getElem?_push, if_pos (by simp)]

/-- Pushing a resource and grafting the outlines below it grafts the whole outline. -/
theorem push_graft (name path : String) (methods : List Method) (children : List Outline) :
    (c.push parent (c.resourceBelow parent name path methods)).graft c.rows.size children =
      c.graft parent [.node name path methods children] := by
  rw [graft, get_push_new, size_push, push, modify_push_last (by simp), Array.push_eq_append,
    Array.append_assoc]
  simp [graft, childIds, rowsOf, rowsOfList, resourceBelow]

def childNames (c : Catalog) (id : Nat) : List String :=
  (c.get id).children.map fun child => (c.get child).name

theorem placeholderName?_eq (c : Catalog) (id : Nat) :
    c.placeholderName? id = (c.childNames id).find? isPlaceholderName := by
  simp [placeholderName?, placeholderChild?, children, childNames, List.find?_map,
    Function.comp_def, Resource.isPlaceholder]

theorem childNames_graft_single (hp : parent < c.rows.size)
    (hc : ∀ child ∈ (c.get parent).children, child < c.rows.size) (o : Outline) :
    (c.graft parent [o]).childNames parent = c.childNames parent ++ [o.name] := by
  have hnew : ((c.graft parent [o]).get c.rows.size).name = o.name := by
    obtain ⟨name, path, methods, children⟩ := o
    have h := getElem?_graft_new c parent [.node name path methods children] 0
    rw [get_of_getElem? (by simpa [rowsOfList, rowsOf] using h)]
    rfl
  have hold : ∀ child ∈ (c.get parent).children,
      ((c.graft parent [o]).get child).name = (c.get child).name := by
    intro child hm
    by_cases hne : child = parent
    · rw [hne, get_graft_self hp]
    · rw [get_graft_of_ne (hc child hm) hne]
  rw [childNames, get_graft_self hp, childNames]
  simp only [childIds, List.map_append, List.map_cons, List.map_nil, hnew]
  rw [List.map_congr_left hold]

theorem childNames_push_new (r : Resource) (h : r.children = []) :
    (c.push parent r).childNames c.rows.size = [] := by
  rw [childNames, get_push_new, h, List.map_nil]

theorem childIds_lt_graft (hp : parent < c.rows.size)
    (hc : ∀ child ∈ (c.get parent).children, child < c.rows.size) (outlines : List Outline) :
    ∀ child ∈ ((c.graft parent outlines).get parent).children,
      child < (c.graft parent outlines).rows.size := by
  intro child hm
  rw [get_graft_self hp] at hm
  rw [size_graft]
  rcases List.mem_append.mp hm with hm | hm
  · have := hc child hm
    omega
  · exact (childIds_bounds hm).2

/-- Adding the entry to any catalog grafts the outline that the nested reading makes of it, or fails
as the nested reading does. -/
def Refines (entry : Cursor) : Prop :=
  ∀ (c : Catalog) (parent : Nat), parent < c.rows.size →
    (∀ child ∈ (c.get parent).children, child < c.rows.size) →
    c.addEntry parent entry = (fun o => c.graft parent [o]) <$>
      Outline.ofEntry (c.get parent).path (c.placeholderName? parent) entry

/-- The placeholder below a resource after one more entry is the one that the nested reading
remembers. -/
theorem placeholderName?_graft {entry : Cursor} {path : String} {earlier : Option String}
    {o : Outline} (hp : parent < c.rows.size)
    (hc : ∀ child ∈ (c.get parent).children, child < c.rows.size)
    (ho : Outline.ofEntry path earlier entry = .ok o) :
    (c.graft parent [o]).placeholderName? parent =
      (c.placeholderName? parent).or ((entry.text? "text").filter isPlaceholderName) := by
  rw [placeholderName?_eq, childNames_graft_single hp hc, List.find?_append, placeholderName?_eq,
    Outline.name_of_ofEntry ho]
  simp [Option.filter]

theorem addEntries_refines {entries : List Cursor} (hr : ∀ entry ∈ entries, Refines entry)
    (c : Catalog) (parent : Nat) (hp : parent < c.rows.size)
    (hc : ∀ child ∈ (c.get parent).children, child < c.rows.size) :
    entries.foldlM (fun grown entry => grown.addEntry parent entry) c =
      c.graft parent <$> (withEarlier (c.placeholderName? parent) entries).mapM
        fun (seen, entry) => Outline.ofEntry (c.get parent).path seen entry := by
  induction entries generalizing c with
  | nil => simp [withEarlier, graft_nil]
  | cons entry rest ih =>
    simp only [List.foldlM_cons, withEarlier, List.mapM_cons]
    rw [hr entry List.mem_cons_self c parent hp hc]
    cases ho : Outline.ofEntry (c.get parent).path (c.placeholderName? parent) entry with
    | error e => rfl
    | ok o =>
      have hpath : ((c.graft parent [o]).get parent).path = (c.get parent).path := by
        rw [get_graft_self hp]
      have hrest := ih (fun entry hm => hr entry (List.mem_cons_of_mem _ hm)) (c.graft parent [o])
        (by rw [size_graft]; omega) (childIds_lt_graft hp hc [o])
      rw [hpath, placeholderName?_graft hp hc ho] at hrest
      change List.foldlM _ (c.graft parent [o]) rest = _
      rw [hrest]
      change _ = c.graft parent <$> (List.mapM _ _ >>= fun os => Except.ok (o :: os))
      generalize List.mapM (m := Except BuildError) _ _ = read
      cases read with
      | error e => rfl
      | ok os => exact congrArg Except.ok (graft_cons hp o os)

/-- The growing catalog simulates the nested reading, one entry at a time. -/
theorem addEntry_refines (entry : Cursor) : Refines entry := by
  intro c parent hp hc
  rw [addEntry_eq, Outline.ofEntry_eq]
  cases hh : entryHeader (c.get parent).path (c.placeholderName? parent) entry with
  | error e => rfl
  | ok header =>
    obtain ⟨name, path⟩ := header
    cases hm : liftSchema (entryMethods entry) with
    | error e => rfl
    | ok methods =>
      cases hl : liftSchema (entriesBelow entry) with
      | error e => rfl
      | ok list =>
        have hr : ∀ child ∈ list, Refines child := fun child hmem =>
          have := sizeOf_lt_of_mem_entriesBelow (liftSchema_eq_ok.mp hl) hmem
          addEntry_refines child
        let r := c.resourceBelow parent name path methods
        have hnew : (c.push parent r).get c.rows.size = r := get_push_new r
        have hsim := addEntries_refines hr (c.push parent r) c.rows.size
          (by rw [size_push]; omega) (by rw [hnew]; simp [r, resourceBelow])
        have hseen : (c.push parent r).placeholderName? c.rows.size = none := by
          rw [placeholderName?_eq, childNames_push_new r rfl]
          rfl
        rw [hseen, hnew, show r.path = path from rfl] at hsim
        change List.foldlM _ (c.push parent r) list = (fun o => c.graft parent [o]) <$>
          (List.mapM (fun (seen, child) => Outline.ofEntry path seen child) (withEarlier none list)
            >>= fun children => Except.ok (Outline.node name path methods children))
        rw [hsim]
        generalize List.mapM (m := Except BuildError) _ _ = read
        cases read with
        | error e => rfl
        | ok children => exact congrArg Except.ok (push_graft name path methods children)
termination_by sizeOf entry.value

/-- Building a catalog grafts the outlines of the document below the root, or fails as the nested
reading of the document does. -/
theorem build_refines (document : Json) :
    build document = empty.graft root <$> Outline.ofDocument document := by
  rw [build, Outline.ofDocument]
  cases liftSchema (Cursor.items { value := document }) with
  | error e => rfl
  | ok entries =>
    exact addEntries_refines (fun entry _ => addEntry_refines entry) empty root
      (by simp [empty, root]) (by simp [empty, root, get])

end Catalog

end ApiAtlas.Resources
