import ApiAtlas.Proofs.Resources.Walk

/-!
# Concrete paths

A concrete path has values where the path of its resource has placeholders. Its keys pair the key
chain of the resource with these values: putting them back in place of the placeholders gives the
segments of the path, and a path that is made by putting in values is read as it was made.
-/

namespace ApiAtlas.Resources

/-- Names with the placeholders among them replaced by values in order. -/
def fill : List String → List String → List String
  | [], _ => []
  | name :: names, values =>
    if isPlaceholderName name then values.headD name :: fill names values.tail
    else name :: fill names values

namespace Catalog

variable {c : Catalog} {id : Nat}

/-- Whether a literal has a segment for its name and no earlier sibling shadows it. -/
def Unshadowed (c : Catalog) (id : Nat) : Prop :=
  IsSegment (c.get id).name ∧
    ∀ k ∈ c.literalSiblings id, k < id → (c.get k).name ≠ (c.get id).name

/-- Whether a value can stand for a placeholder: no literal beside it may have it for its name. -/
def Admissible (c : Catalog) (id : Nat) (value : String) : Prop :=
  IsSegment value ∧ ∀ k ∈ c.literalSiblings id, (c.get k).name ≠ value

instance (c : Catalog) (id : Nat) : Decidable (c.Unshadowed id) :=
  inferInstanceAs (Decidable (IsSegment _ ∧ ∀ k ∈ c.literalSiblings id, _))

instance (c : Catalog) (id : Nat) (value : String) : Decidable (c.Admissible id value) :=
  inferInstanceAs (Decidable (IsSegment value ∧ ∀ k ∈ c.literalSiblings id, _))

theorem Unshadowed.takes (h : c.Unshadowed id) (hlit : (c.get id).isPlaceholder = false) :
    c.Takes id (c.get id).name := (takes_literal hlit).mpr ⟨rfl, h.2⟩

theorem Admissible.takes {value : String} (h : c.Admissible id value)
    (hb : (c.get id).isPlaceholder = true) : c.Takes id value := (takes_placeholder hb).mpr h.2

section Along

variable {ids : List Nat} {values segments : List String}

theorem fill_placeholder (hb : (c.get id).isPlaceholder = true) (value : String) :
    fill (c.namesOf (id :: ids)) (value :: values) = value :: fill (c.namesOf ids) values :=
  if_pos hb

theorem fill_literal (hlit : (c.get id).isPlaceholder = false) :
    fill (c.namesOf (id :: ids)) values = (c.get id).name :: fill (c.namesOf ids) values := by
  have hname : isPlaceholderName (c.get id).name = false := hlit
  simp [namesOf, fill, hname]

theorem keysAlong_placeholder (hb : (c.get id).isPlaceholder = true) (segment : String) :
    c.keysAlong (id :: ids) (segment :: segments) =
      ((c.get id).indexName, segment) :: c.keysAlong ids segments := by
  simp [keysAlong, keyOf?, hb]

theorem keysAlong_literal (hlit : (c.get id).isPlaceholder = false) (segment : String) :
    c.keysAlong (id :: ids) (segment :: segments) = c.keysAlong ids segments := by
  simp [keysAlong, keyOf?, hlit]

/-- Segments that lead along resources bind the names of the placeholders among these, and putting
the bound values in place of the placeholders gives the segments. -/
theorem keysAlong_of_takes (h : List.Forall₂ c.Takes ids segments) :
    (c.keysAlong ids segments).map (·.1) =
        (c.placeholdersOf ids).map (fun m => (c.get m).indexName) ∧
      fill (c.namesOf ids) ((c.keysAlong ids segments).map (·.2)) = segments := by
  induction h with
  | nil => exact ⟨rfl, rfl⟩
  | @cons id segment ids segments ht h ih =>
    obtain ⟨hnames, hvalues⟩ := ih
    cases hb : (c.get id).isPlaceholder with
    | true =>
      rw [keysAlong_placeholder hb, placeholdersOf_cons_placeholder hb]
      simp only [List.map_cons]
      rw [fill_placeholder hb, hnames, hvalues]
      exact ⟨rfl, rfl⟩
    | false =>
      rw [keysAlong_literal hb, placeholdersOf_cons_literal hb, fill_literal hb, hvalues,
        ((takes_literal hb).mp ht).1]
      exact ⟨hnames, rfl⟩

/-- Names that are filled with admissible values are segments that lead along the resources, and
they bind the values. The induction is on the resources; a literal leaves the values as they are. -/
theorem takes_filled (hliteral : ∀ m ∈ ids, (c.get m).isPlaceholder = false → c.Unshadowed m)
    (hvalues : List.Forall₂ c.Admissible (c.placeholdersOf ids) values) :
    (∀ s ∈ fill (c.namesOf ids) values, IsSegment s) ∧
      List.Forall₂ c.Takes ids (fill (c.namesOf ids) values) ∧
      c.keysAlong ids (fill (c.namesOf ids) values) =
        ((c.placeholdersOf ids).map fun m => (c.get m).indexName).zip values := by
  induction ids generalizing values with
  | nil => exact ⟨by simp [namesOf, fill], .nil, rfl⟩
  | cons id ids ih =>
    obtain ⟨hid, hids⟩ := List.forall_mem_cons.mp hliteral
    cases hb : (c.get id).isPlaceholder with
    | true =>
      rw [placeholdersOf_cons_placeholder hb, List.forall₂_cons_left_iff] at hvalues
      obtain ⟨value, rest, hvalue, hrest, rfl⟩ := hvalues
      obtain ⟨hsegments, htakes, hkeys⟩ := ih hids hrest
      rw [fill_placeholder hb, placeholdersOf_cons_placeholder hb, keysAlong_placeholder hb, hkeys]
      exact ⟨List.forall_mem_cons.mpr ⟨hvalue.1, hsegments⟩, .cons (hvalue.takes hb) htakes, rfl⟩
    | false =>
      rw [placeholdersOf_cons_literal hb] at hvalues
      obtain ⟨hsegments, htakes, hkeys⟩ := ih hids hvalues
      rw [fill_literal hb, placeholdersOf_cons_literal hb, keysAlong_literal hb, hkeys]
      exact ⟨List.forall_mem_cons.mpr ⟨(hid hb).1, hsegments⟩, .cons ((hid hb).takes hb) htakes,
        rfl⟩

end Along

theorem Rooted.exists_bindKeys? (h : Rooted c) {path : String} (hpath : c.locate? path = some id) :
    ∃ keys, c.bindKeys? path = some keys ∧ keys.map (·.1) = (c.get id).keyChain := by
  obtain ⟨hid, htakes⟩ := (h.locate?_eq_some path id).mp hpath
  refine ⟨c.keysAlong (c.lineage id) (segmentsOf path), ?_, ?_⟩
  · rw [h.bindKeys?_eq, hpath, Option.map_some]
  · rw [(keysAlong_of_takes htakes).1, h.keyChain_eq_map hid]

def nodesDocument : Json :=
  .arr [
    .obj [
      ("text", .str "nodes"), ("path", .str "/nodes"),
      ("children", .arr [
        .obj [("text", .str "qemu"), ("path", .str "/nodes/qemu")],
        .obj [
          ("text", .str "\x7bnode\x7d"), ("path", .str "/nodes/\x7bnode\x7d"),
          ("children", .arr [
            .obj [("text", .str "qemu"), ("path", .str "/nodes/\x7bnode\x7d/qemu")]])]])]]

/-- What can be computed of a built catalog holds of it. -/
theorem exists_built (document : Json) {P : Catalog → Prop} [DecidablePred P]
    (h : (build document).toOption.any (fun c => decide (P c)) = true) :
    ∃ c, build document = .ok c ∧ P c :=
  Checks.exists_ok_and h

/-- Keys are bound for exactly the paths that lead to a resource. They are named by its key chain,
and their values, put in place of the placeholders of its lineage, give the segments of the path. -/
theorem bindKeys?_of_locate? {document : Json} (h : build document = .ok c) (path : String) :
    (c.bindKeys? path).isSome = (c.locate? path).isSome ∧
      ∀ id, c.locate? path = some id → ∃ keys, c.bindKeys? path = some keys ∧
        keys.map (·.1) = (c.get id).keyChain ∧
        fill (c.namesOf (c.lineage id)) (keys.map (·.2)) = segmentsOf path := by
  have hrooted := build_rooted h
  rw [hrooted.bindKeys?_eq]
  refine ⟨Option.isSome_map, fun id hid => ?_⟩
  obtain ⟨hlt, htakes⟩ := (hrooted.locate?_eq_some path id).mp hid
  obtain ⟨hnames, hvalues⟩ := keysAlong_of_takes htakes
  rw [hid]
  exact ⟨_, rfl, hnames.trans (hrooted.keyChain_eq_map hlt).symm, hvalues⟩

theorem bindKeys?_nodes : ∃ c id keys, build nodesDocument = .ok c ∧
    c.locate? "/nodes//pve1/qemu/" = some id ∧ c.bindKeys? "/nodes//pve1/qemu/" = some keys ∧
      keys.map (·.1) = ["node"] ∧
      fill (c.namesOf (c.lineage id)) (keys.map (·.2)) = ["nodes", "pve1", "qemu"] := by
  obtain ⟨c, hc, hid, hchain⟩ := exists_built nodesDocument
    (P := fun c => c.locate? "/nodes//pve1/qemu/" = some 4 ∧ (c.get 4).keyChain = ["node"])
    (by decide +kernel)
  obtain ⟨keys, hkeys, hnames, hvalues⟩ := (bindKeys?_of_locate? hc "/nodes//pve1/qemu/").2 4 hid
  exact ⟨c, 4, keys, hc, hid, hkeys, hnames.trans hchain, hvalues⟩

/-- A path that is made of the names of the lineage of a resource, with admissible values in place
of the placeholders, leads to the resource and binds its key chain to these values. -/
theorem locate?_filled {document : Json} (h : build document = .ok c) (hid : id < c.rows.size)
    (hliteral : ∀ m ∈ c.lineage id, (c.get m).isPlaceholder = false → c.Unshadowed m)
    {values : List String}
    (hvalues : List.Forall₂ c.Admissible (c.placeholdersOf (c.lineage id)) values) :
    c.locate? (joinPath (fill (c.namesOf (c.lineage id)) values)) = some id ∧
      c.bindKeys? (joinPath (fill (c.namesOf (c.lineage id)) values)) =
        some ((c.get id).keyChain.zip values) := by
  have hrooted := build_rooted h
  obtain ⟨hsegments, htakes, hkeys⟩ := takes_filled hliteral hvalues
  have hsplit : segmentsOf (joinPath (fill (c.namesOf (c.lineage id)) values)) =
      fill (c.namesOf (c.lineage id)) values := segmentsOf_joinPath_of_segments hsegments
  have hlocate : c.locate? (joinPath (fill (c.namesOf (c.lineage id)) values)) = some id := by
    rw [hrooted.locate?_eq_some, hsplit]
    exact ⟨hid, htakes⟩
  refine ⟨hlocate, ?_⟩
  rw [hrooted.bindKeys?_eq, hlocate, Option.map_some, hsplit, hkeys, hrooted.keyChain_eq_map hid]

theorem locate?_filled_nodes : ∃ c, build nodesDocument = .ok c ∧
    c.locate? "/nodes/pve1/qemu" = some 4 ∧
      c.bindKeys? "/nodes/pve1/qemu" = some [("node", "pve1")] := by
  obtain ⟨c, hc, hid, hliteral, hvalues, hpath, hchain⟩ := exists_built nodesDocument (P := fun c =>
    4 < c.rows.size ∧
      (∀ m ∈ c.lineage 4, (c.get m).isPlaceholder = false → c.Unshadowed m) ∧
      List.Forall₂ c.Admissible (c.placeholdersOf (c.lineage 4)) ["pve1"] ∧
      joinPath (fill (c.namesOf (c.lineage 4)) ["pve1"]) = "/nodes/pve1/qemu" ∧
      (c.get 4).keyChain = ["node"]) (by decide +kernel)
  have h := locate?_filled hc hid hliteral hvalues
  rw [hpath, hchain] at h
  exact ⟨c, hc, h⟩

end Catalog

end ApiAtlas.Resources
