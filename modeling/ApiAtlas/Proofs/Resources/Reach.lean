import ApiAtlas.Proofs.Resources.RoundTrip
import Mathlib.Algebra.Order.BigOperators.Group.List
import Mathlib.Algebra.Order.Group.Nat

/-!
# Resources that no path leads to

A placeholder can always be met: of all segments there is one that no literal beside it has for its
name. A literal can only be met by its name. So a path leads to a resource exactly when no literal
on its lineage has a name that is no segment, or the name of an earlier sibling; a catalog in which
there are such literals has resources that no path leads to.
-/

namespace ApiAtlas.Resources

theorem exists_segment_not_mem (names : List String) : ∃ s, IsSegment s ∧ s ∉ names := by
  -- a segment that is longer than all names together
  let n := (names.map String.length).sum + 1
  refine ⟨String.ofList (List.replicate n 'x'), ⟨?_, ?_⟩, ?_⟩
  · intro he
    have := congrArg String.toList he
    simp [n] at this
  · simp [List.mem_replicate]
  · intro hm
    have hle := List.le_sum_of_mem (List.mem_map_of_mem (f := String.length) hm)
    rw [String.length_ofList, List.length_replicate] at hle
    omega

namespace Catalog

variable {c : Catalog} {id m : Nat}

theorem exists_admissible (c : Catalog) (m : Nat) : ∃ value, c.Admissible m value := by
  obtain ⟨value, hsegment, hfresh⟩ := exists_segment_not_mem (c.namesOf (c.literalSiblings m))
  refine ⟨value, hsegment, fun k hk hname => ?_⟩
  exact hfresh (hname ▸ List.mem_map_of_mem (f := fun m => (c.get m).name) hk)

theorem exists_admissible_values (c : Catalog) (ids : List Nat) :
    ∃ values, List.Forall₂ c.Admissible ids values := by
  choose value hvalue using c.exists_admissible
  exact ⟨ids.map value, List.forall₂_map_right_iff.mpr (List.forall₂_same.mpr fun m _ => hvalue m)⟩

/-- Some path leads to a resource exactly when no literal on its lineage is shadowed. -/
theorem Rooted.exists_locate?_iff (h : Rooted c) (hid : id < c.rows.size) :
    (∃ path, c.locate? path = some id) ↔
      ∀ m ∈ c.lineage id, (c.get m).isPlaceholder = false → c.Unshadowed m := by
  constructor
  · rintro ⟨path, hpath⟩
    obtain ⟨-, htakes⟩ := (h.locate?_eq_some path id).mp hpath
    exact unshadowed_of_takes htakes fun s => isSegment_of_mem_segmentsOf
  · intro hliteral
    obtain ⟨values, hvalues⟩ := c.exists_admissible_values (c.placeholdersOf (c.lineage id))
    obtain ⟨hsegments, htakes, -⟩ := takes_filled hliteral hvalues
    refine ⟨joinPath (fill (c.namesOf (c.lineage id)) values), (h.locate?_eq_some _ id).mpr ?_⟩
    rw [segmentsOf_joinPath_of_segments hsegments]
    exact ⟨hid, htakes⟩

/-- In a built catalog, some path leads to a resource exactly when every literal on its lineage has
a segment for its name that is not the name of an earlier literal beside it. -/
theorem exists_locate?_iff_unshadowed {document : Json} (h : build document = .ok c)
    (hid : id < c.rows.size) :
    (∃ path, c.locate? path = some id) ↔
      ∀ m ∈ c.lineage id, (c.get m).isPlaceholder = false → c.Unshadowed m :=
  (build_rooted h).exists_locate?_iff hid

theorem exists_locate?_nodes : ∃ c, build nodesDocument = .ok c ∧ 4 < c.rows.size ∧
    (∀ m ∈ c.lineage 4, (c.get m).isPlaceholder = false → c.Unshadowed m) ∧
      ∃ path, c.locate? path = some 4 := by
  obtain ⟨c, hc, hid, hliteral⟩ := exists_built nodesDocument (P := fun c => 4 < c.rows.size ∧
    ∀ m ∈ c.lineage 4, (c.get m).isPlaceholder = false → c.Unshadowed m) (by decide +kernel)
  exact ⟨c, hc, hid, hliteral, (exists_locate?_iff_unshadowed hc hid).mpr hliteral⟩

def repeatedDocument : Json :=
  .arr [
    .obj [("text", .str "nodes"), ("path", .str "/nodes")],
    .obj [
      ("text", .str "nodes"), ("path", .str "/nodes"),
      ("children", .arr [.obj [("text", .str "qemu"), ("path", .str "/nodes/qemu")]])]]

/-- Below the second of two literals with one name there are resources that no path leads to. -/
theorem not_exists_locate?_repeated : ∃ c, build repeatedDocument = .ok c ∧ 3 < c.rows.size ∧
    (c.get 3).path = "/nodes/qemu" ∧ ¬ ∃ path, c.locate? path = some 3 := by
  obtain ⟨c, hc, hid, hpath, hshadowed⟩ := exists_built repeatedDocument (P := fun c =>
    3 < c.rows.size ∧ (c.get 3).path = "/nodes/qemu" ∧
      ¬ ∀ m ∈ c.lineage 3, (c.get m).isPlaceholder = false → c.Unshadowed m) (by decide +kernel)
  refine ⟨c, hc, hid, hpath, fun hreached => hshadowed ?_⟩
  exact ((build_rooted hc).exists_locate?_iff hid).mp hreached

end Catalog

end ApiAtlas.Resources
