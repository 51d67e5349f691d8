import ApiAtlas.Proofs.Resources.Complaint
import ApiAtlas.Proofs.Resources.Rooted
import ApiAtlas.Proofs.Resources.Segments
import ApiAtlas.Proofs.Resources.Views

/-!
# The entries behind resources

The resources of a built catalog, the root apart, come from the entries of the document in the order
in which a reader that goes through it depth first meets them. Each has the name, the path and the
methods that its entry tells.
-/

namespace ApiAtlas.Resources

open Schema Descriptor Checks ListLaws

/-- A resource that has the name, the path and the methods which an entry tells. -/
structure Visit.Tells (v : Visit) (r : Resource) : Prop where
  name_eq : v.entry.text? "text" = some r.name
  path_eq : v.entry.text? "path" = some r.path
  methods_eq : entryMethods v.entry = .ok r.methods

/-- Where an outline that is made of an entry is laid out, its rows are told by the visits of the
entry and of those below it. -/
def ToldByVisits (entry : Cursor) : Prop :=
  ∀ parent earlier o, Outline.ofEntry parent earlier entry = .ok o →
    ∀ path before id above chain,
      List.Forall₂ Visit.Tells (visits path before entry) (rowsOf id above chain o)

theorem toldByVisits_list {entries : List Cursor} (hr : ∀ entry ∈ entries, ToldByVisits entry)
    {parent : String} {earlier : Option String} {outlines : List Outline}
    (h : (withEarlier earlier entries).mapM
      (fun (seen, entry) => Outline.ofEntry parent seen entry) = .ok outlines)
    (path : String) (before : List Cursor) (id above : Nat) (chain : List String) :
    List.Forall₂ Visit.Tells
      ((withBefore before entries).flatMap fun (seen, entry) => visits path seen entry)
      (rowsOfList id above chain outlines) := by
  rw [mapM_eq_ok] at h
  induction entries generalizing earlier before id outlines with
  | nil =>
    obtain rfl := List.forall₂_nil_left_iff.mp h
    exact .nil
  | cons entry rest ih =>
    obtain ⟨o, os, ho, hos, rfl⟩ := List.forall₂_cons_left_iff.mp h
    rw [withBefore, List.flatMap_cons, rowsOfList]
    exact List.rel_append (hr entry List.mem_cons_self parent _ o ho path before id above chain)
      (ih (fun e hm => hr e (List.mem_cons_of_mem _ hm)) hos (before ++ [entry]) (id + o.size))

theorem toldByVisits (entry : Cursor) : ToldByVisits entry := by
  intro parent earlier o ho path before id above chain
  obtain ⟨name, own, methods, list, children, hh, hm, hl, hc, rfl⟩ := Outline.ofEntry_eq_ok.mp ho
  obtain ⟨hname, hpath, -, -⟩ := entryHeader_eq_ok.mp hh
  have hr : ∀ child ∈ list, ToldByVisits child := fun child hmem =>
    have := sizeOf_lt_of_mem_entriesBelow hl hmem
    toldByVisits child
  rw [visits_eq, hl, entriesIn, rowsOf]
  exact .cons ⟨hname, hpath, hm⟩ (toldByVisits_list hr hc _ _ _ _ _)
termination_by sizeOf entry.value

namespace Catalog

variable {c : Catalog} {document : Json}

/-- The resources of a built catalog behind the root are told by the visits of its document, one by
one. -/
theorem told_by_visits (h : build document = .ok c) :
    List.Forall₂ Visit.Tells (documentVisits document) (c.rows.toList.drop 1) := by
  rw [build_refines, map_eq_ok] at h
  obtain ⟨outlines, houtlines, rfl⟩ := h
  have hrows : ((empty.graft root outlines).rows.toList.drop 1) =
      rowsOfList 1 root [] outlines := by
    simp [graft, empty, root, get]
  rw [Outline.ofDocument, bind_eq_ok] at houtlines
  obtain ⟨entries, hentries, hread⟩ := houtlines
  rw [hrows, documentVisits, liftSchema_eq_ok.mp hentries, entriesIn]
  exact toldByVisits_list (fun entry _ => toldByVisits entry) hread _ _ _ _ _

theorem length_documentVisits (h : build document = .ok c) :
    (documentVisits document).length = c.rows.size - 1 := by
  rw [(told_by_visits h).length_eq, List.length_drop, Array.length_toList]

theorem tells_of_getElem? (h : build document = .ok c) {i : Nat} {v : Visit}
    (hv : (documentVisits document)[i]? = some v) : v.Tells (c.get (i + 1)) := by
  have hall := told_by_visits h
  obtain ⟨hi, rfl⟩ := List.getElem?_eq_some_iff.mp hv
  have hi' : i < (c.rows.toList.drop 1).length := hall.length_eq ▸ hi
  have htold := hall.get hi hi'
  have hrow : (c.rows.toList.drop 1)[i] = c.get (i + 1) := by
    rw [List.length_drop, Array.length_toList] at hi'
    simp [get, show i + 1 < c.rows.size by omega]
  rw [← hrow]
  exact htold

theorem methods_root (h : build document = .ok c) : (c.get root).methods = [] := by
  rw [build_refines, map_eq_ok] at h
  obtain ⟨outlines, -, rfl⟩ := h
  rw [get_graft_self (by decide)]
  rfl

/-- A resource has no methods, or it is told by the visit of an entry. -/
theorem methods_eq_nil_or_told (h : build document = .ok c) (id : Nat) :
    (c.get id).methods = [] ∨ ∃ v ∈ documentVisits document, v.Tells (c.get id) := by
  cases id with
  | zero => exact .inl (methods_root h)
  | succ i =>
    cases hi : (documentVisits document)[i]? with
    | none =>
      have hbound := List.getElem?_eq_none_iff.mp hi
      rw [length_documentVisits h] at hbound
      have hle : c.rows.size ≤ i + 1 := by omega
      exact .inl (by rw [get_of_le hle])
    | some v => exact .inr ⟨v, List.mem_of_getElem? hi, tells_of_getElem? h hi⟩

/-- Every method of a built catalog is read from a description. -/
theorem exists_ofSchema_of_mem_methods (h : build document = .ok c) {id : Nat} {m : Method}
    (hm : m ∈ (c.get id).methods) : ∃ verb schema, Method.ofSchema verb schema = .ok m := by
  rcases methods_eq_nil_or_told h id with hnone | ⟨v, -, htells⟩
  · rw [hnone] at hm
    contradiction
  · have hmethods := htells.methods_eq
    rw [entryMethods_eq, bind_eq_ok] at hmethods
    obtain ⟨members, -, hread⟩ := hmethods
    obtain ⟨member, -, hmember⟩ := exists_of_mem_forall₂ (mapM_eq_ok.mp hread).flip m hm
    exact ⟨member.1, member.2, hmember⟩

end Catalog

end ApiAtlas.Resources
