import ApiAtlas.Client.Assembly
import ApiAtlas.Proofs.Resources.DepthFirst

/-!
# Names of types

The base of a type name is made of the stem of the settings and of what the resources on the lineage
add to it. The types are named depth first: each gets its base for a name or, if that is taken, the
base with the first counter behind it that makes a new name. So no two types of a client have the
same name, whichever bases coincide.
-/

namespace ApiAtlas.Client

open Naming Resources

/-! ## Free names -/

/-- Whether a name is the one for a base beside the taken names: the base itself if it is free, and
otherwise the base with the smallest counter from 2 on that makes a free name. -/
inductive FirstFree (taken : List String) (base : String) : String → Prop
  | plain : base ∉ taken → FirstFree taken base base
  | numbered (k : Nat) : base ∈ taken → 2 ≤ k → base ++ toString k ∉ taken →
      (∀ j, 2 ≤ j → j < k → base ++ toString j ∈ taken) →
      FirstFree taken base (base ++ toString k)

theorem FirstFree.not_mem {taken : List String} {base name : String}
    (h : FirstFree taken base name) : name ∉ taken := by
  cases h with
  | plain hfree => exact hfree
  | numbered k _ _ hfree _ => exact hfree

/-- The search for a name ends, and it ends at the first free one. -/
theorem firstFree_freeName (taken : List String) (base : String) :
    FirstFree taken base (freeName taken base) := by
  by_cases hbase : base ∈ taken
  · obtain ⟨k, hk, hname, hbefore⟩ := exists_numberedFree_eq taken base
    have hfree := numberedFree_not_mem taken base
    rw [freeName, if_pos (by simpa using hbase), hname]
    exact .numbered k hbase hk (hname ▸ hfree) hbefore
  · rw [freeName, if_neg (by simpa using hbase)]
    exact .plain hbase

/-! ## Bases -/

variable {c : Catalog} {s : Settings} {id parent : Nat}

/-- The base of the type name of a resource: the stem and what the lineage adds to it. -/
def typeBase (c : Catalog) (s : Settings) (id : Nat) : String :=
  s.typeStem ++ String.join ((c.lineage id).map fun m => nameFragment (c.get m))

theorem typeBase_root (hr : c.Rooted) (s : Settings) :
    typeBase c s Catalog.root = s.typeStem := by
  simp [typeBase, hr.lineage_root]

theorem typeBase_of_parent (hr : c.Rooted) (s : Settings)
    (hp : (c.get id).parent = some parent) :
    typeBase c s id = typeBase c s parent ++ nameFragment (c.get id) := by
  simp [typeBase, hr.lineage_of_parent hp, String.append_assoc]

/-! ## The names given so far -/

namespace TypeNames

/-- Whether the first resources have their bases and names: the root has its own name, and each
other one the first free name behind the resources in front of it. -/
structure Follow (c : Catalog) (s : Settings) (count : Nat) (t : TypeNames) : Prop where
  bases : t.bases.toList = (List.range count).map (typeBase c s)
  size_names : t.names.size = count
  root : t.names[Catalog.root]? = some s.rootName
  firstFree : ∀ id name, id ≠ Catalog.root → t.names[id]? = some name →
    FirstFree (t.names.toList.take id) (typeBase c s id) name

variable {t : TypeNames} {count : Nat}

theorem Follow.start (hr : c.Rooted) (s : Settings) :
    Follow c s 1 ⟨#[s.typeStem], #[s.rootName]⟩ := by
  refine ⟨congrArg (fun base => [base]) (typeBase_root hr s).symm, rfl, rfl,
    fun id name hne hname => ?_⟩
  obtain ⟨hlt, -⟩ := Array.getElem?_eq_some_iff.mp hname
  exact absurd (Nat.lt_one_iff.mp hlt) hne

theorem Follow.add_eq (h : t.Follow c s count) (hr : c.Rooted)
    (hp : (c.get count).parent = some parent) :
    t.add (c.get count) = ⟨t.bases.push (typeBase c s count),
      t.names.push (freeName t.names.toList (typeBase c s count))⟩ := by
  have hbase : t.bases[parent]? = some (typeBase c s parent) := by
    rw [← Array.getElem?_toList, h.bases, List.getElem?_map,
      List.getElem?_range (hr.parent_lt count parent hp), Option.map_some]
  rw [add, hp, Option.bind_some, hbase, Option.getD_some, typeBase_of_parent hr s hp]

theorem Follow.add (h : t.Follow c s count) (hr : c.Rooted) (hpos : 0 < count)
    (hlt : count < c.rows.size) : (t.add (c.get count)).Follow c s (count + 1) := by
  obtain ⟨parent, hp⟩ := hr.parent_of_ne count hlt (Nat.ne_of_gt hpos)
  have hlength : t.names.toList.length = count := by rw [Array.length_toList, h.size_names]
  rw [h.add_eq hr hp]
  constructor
  case bases => rw [Array.toList_push, h.bases, List.range_succ, List.map_append, List.map_singleton]
  case size_names => rw [Array.size_push, h.size_names]
  case root =>
    rw [Array.getElem?_push, if_neg (by rw [h.size_names, Catalog.root]; omega)]
    exact h.root
  case firstFree =>
    intro id name hne hname
    rw [Array.getElem?_push, h.size_names] at hname
    rw [Array.toList_push]
    split at hname
    · rename_i hid
      rw [hid, List.take_append_of_le_length (Nat.le_of_eq hlength.symm),
        List.take_of_length_le (Nat.le_of_eq hlength), ← Option.some.inj hname]
      exact firstFree_freeName _ _
    · obtain ⟨hold, -⟩ := Array.getElem?_eq_some_iff.mp hname
      rw [List.take_append_of_le_length (by rw [Array.length_toList]; omega)]
      exact h.firstFree id name hne hname

theorem Follow.foldl_add (h : t.Follow c s count) (hr : c.Rooted) (hpos : 0 < count)
    (hle : count ≤ c.rows.size) :
    ((c.rows.toList.drop count).foldl TypeNames.add t).Follow c s c.rows.size := by
  -- one more row is named at each step, up to the last one
  induction hrest : c.rows.size - count generalizing t count with
  | zero =>
    obtain rfl : count = c.rows.size := by omega
    rw [List.drop_of_length_le (by simp)]
    exact h
  | succ rest ih =>
    have hlt : count < c.rows.size := by omega
    have hrows : c.rows.toList.drop count = c.get count :: c.rows.toList.drop (count + 1) := by
      rw [List.drop_eq_getElem?_toList_append, Array.getElem?_toList, Catalog.getElem?_of_lt hlt]
      rfl
    rw [hrows, List.foldl_cons]
    exact ih (h.add hr hpos hlt) (Nat.succ_pos count) hlt (by omega)

end TypeNames

theorem exists_follow (hr : c.Rooted) (s : Settings) :
    ∃ t : TypeNames, t.names = typeNames c s ∧ t.Follow c s c.rows.size :=
  ⟨_, rfl, (TypeNames.Follow.start hr s).foldl_add hr Nat.one_pos hr.root_lt⟩

/-! ## All names -/

def typeName (c : Catalog) (s : Settings) (id : Nat) : String := (typeNames c s)[id]?.getD ""

theorem toList_typeNames (hr : c.Rooted) (s : Settings) :
    (typeNames c s).toList = (List.range c.rows.size).map (typeName c s) := by
  obtain ⟨t, ht, hfollow⟩ := exists_follow hr s
  refine List.ext_getElem (by simp [← ht, hfollow.size_names]) fun id hid _ => ?_
  simp [typeName, Array.getElem?_eq_getElem (by simpa using hid)]

theorem typeName_root (hr : c.Rooted) (s : Settings) :
    typeName c s Catalog.root = s.rootName := by
  obtain ⟨t, ht, hfollow⟩ := exists_follow hr s
  rw [typeName, ← ht, hfollow.root, Option.getD_some]

/-- The name of a type beside those of the resources with smaller numbers. -/
theorem firstFree_typeName (hr : c.Rooted) (s : Settings) (hid : id < c.rows.size)
    (hne : id ≠ Catalog.root) :
    FirstFree ((List.range id).map (typeName c s)) (typeBase c s id) (typeName c s id) := by
  obtain ⟨t, ht, hfollow⟩ := exists_follow hr s
  have hlt : id < t.names.size := hfollow.size_names ▸ hid
  have hname : t.names[id]? = some (typeName c s id) := by
    rw [typeName, ← ht, Array.getElem?_eq_getElem hlt, Option.getD_some]
  have htake : t.names.toList.take id = (List.range id).map (typeName c s) := by
    rw [ht, toList_typeNames hr, ← List.map_take, List.take_range, Nat.min_eq_left hid.le]
  exact htake ▸ hfollow.firstFree id _ hne hname

theorem nodup_typeName (hr : c.Rooted) (s : Settings) :
    ((List.range c.rows.size).map (typeName c s)).Nodup := by
  refine List.pairwise_map.mpr (List.pairwise_lt_range.imp_of_mem fun {i j} _ hj hlt heq => ?_)
  have hfree := (firstFree_typeName hr s (List.mem_range.mp hj) (Nat.ne_zero_of_lt hlt)).not_mem
  exact hfree (heq ▸ List.mem_map_of_mem (List.mem_range.mpr hlt))

theorem typeName_injective (hr : c.Rooted) {other : Nat} (hid : id < c.rows.size)
    (hother : other < c.rows.size) (h : typeName c s id = typeName c s other) : id = other :=
  List.inj_on_of_nodup_map (nodup_typeName hr s) (List.mem_range.mpr hid)
    (List.mem_range.mpr hother) h

def clientType (c : Catalog) (s : Settings) (id : Nat) : ClientType :=
  typeOf c s.reserved (typeNames c s) id

@[simp] theorem name_clientType : (clientType c s id).name = typeName c s id := rfl

theorem types_eq {document : Json} (h : Catalog.build document = .ok c) (s : Settings) :
    (assemble c s).types = (List.range c.rows.size).map (clientType c s) := by
  rw [assemble, Catalog.cons_descendants_root h]
  rfl

theorem mem_types {document : Json} (h : Catalog.build document = .ok c) (s : Settings)
    {t : ClientType} : t ∈ (assemble c s).types ↔ ∃ id < c.rows.size, clientType c s id = t := by
  simp only [types_eq h s, List.mem_map, List.mem_range]

theorem range_eq_append {n : Nat} {front back : List Nat}
    (h : List.range n = front ++ id :: back) : id < n ∧ front = List.range id := by
  rw [List.range_eq_range', List.range'_eq_append_iff] at h
  obtain ⟨k, hk, hfront, hback⟩ := h
  obtain ⟨hid, hpos, -⟩ := List.range'_eq_cons_iff.mp hback.symm
  obtain rfl : k = id := by omega
  exact ⟨by omega, hfront.trans List.range_eq_range'.symm⟩

/-- The types of the client of a built catalog are named depth first, and no two of them have the
same name. The root has the name that the settings give it. Any other resource adds to the base of
its parent, whatever name its parent has got, and its name is the first free one for its base beside
the names given by then. -/
theorem types_named_firstFree {document : Json} (h : Catalog.build document = .ok c)
    (s : Settings) :
    (assemble c s).types.map (·.name) =
        (Catalog.root :: c.descendants Catalog.root).map (typeName c s) ∧
      ((assemble c s).types.map (·.name)).Nodup ∧
      typeName c s Catalog.root = s.rootName ∧ typeBase c s Catalog.root = s.typeStem ∧
      ∀ before id after, c.descendants Catalog.root = before ++ id :: after →
        (∃ parent ∈ Catalog.root :: before, (c.get id).parent = some parent ∧
          typeBase c s id = typeBase c s parent ++ nameFragment (c.get id)) ∧
        FirstFree ((Catalog.root :: before).map (typeName c s)) (typeBase c s id)
          (typeName c s id) := by
  have hr := Catalog.build_rooted h
  have hrange := Catalog.cons_descendants_root h
  have hnames : (assemble c s).types.map (·.name) =
      (Catalog.root :: c.descendants Catalog.root).map (typeName c s) := by
    rw [assemble, List.map_map]
    rfl
  refine ⟨hnames, ?_, typeName_root hr s, typeBase_root hr s, fun before id after hsplit => ?_⟩
  · rw [hnames, hrange]
    exact nodup_typeName hr s
  · have hlist : List.range c.rows.size = (Catalog.root :: before) ++ id :: after := by
      rw [← hrange, hsplit, List.cons_append]
    obtain ⟨hid, hbefore⟩ := range_eq_append hlist
    have hne : id ≠ Catalog.root := by
      rintro rfl
      simp [Catalog.root] at hbefore
    obtain ⟨parent, hp⟩ := hr.parent_of_ne id hid hne
    rw [hbefore]
    exact ⟨⟨parent, List.mem_range.mpr (hr.parent_lt id parent hp), hp,
      typeBase_of_parent hr s hp⟩, firstFree_typeName hr s hid hne⟩

/-- A document with two resources of the same base; with its counter the name of the second one is
the base of a third. -/
def homonymsDocument : Json :=
  .arr [
    .obj [("text", .str "a-b"), ("path", .str "/a-b")],
    .obj [("text", .str "aB"), ("path", .str "/aB"), ("children", .arr [
      .obj [("text", .str "c"), ("path", .str "/aB/c")]])],
    .obj [("text", .str "aB2"), ("path", .str "/aB2")]]

theorem types_named_firstFree_homonyms : ∃ c, Catalog.build homonymsDocument = .ok c ∧
    (assemble c {}).types.map (·.name) = ["PveApi", "PveAB", "PveAB2", "PveABC", "PveAB22"] ∧
      ((assemble c {}).types.map (·.name)).Nodup ∧
      FirstFree ["PveApi", "PveAB", "PveAB2", "PveABC"] "PveAB2" "PveAB22" := by
  obtain ⟨c, hc, hnames, hdescendants, hbefore, hbase, hname⟩ :=
    Catalog.exists_built homonymsDocument (P := fun c =>
      (assemble c {}).types.map (·.name) = ["PveApi", "PveAB", "PveAB2", "PveABC", "PveAB22"] ∧
      c.descendants Catalog.root = [1, 2, 3] ++ 4 :: [] ∧
      (Catalog.root :: [1, 2, 3]).map (typeName c {}) = ["PveApi", "PveAB", "PveAB2", "PveABC"] ∧
      typeBase c {} 4 = "PveAB2" ∧ typeName c {} 4 = "PveAB22") (by decide +kernel)
  obtain ⟨-, hnodup, -, -, hfirst⟩ := types_named_firstFree hc {}
  obtain ⟨-, hfree⟩ := hfirst [1, 2, 3] 4 [] hdescendants
  rw [hbefore, hbase, hname] at hfree
  exact ⟨c, hc, hnames, hnodup, hfree⟩

end ApiAtlas.Client
