import ApiAtlas.Proofs.Resources.Complaint
import ApiAtlas.Proofs.Resources.Keys

/-!
# Paths lead back to their resources

The path of a resource leads to it exactly when every name on its lineage, met as a segment, leads
from the parent to the child. A name that gives no segment or several cannot be made up for by the
others: a literal must be a segment itself, a placeholder has at least one, and there are as many
segments as names.
-/

namespace ApiAtlas.Resources

open Schema Descriptor Checks ListLaws

namespace Catalog

variable {c : Catalog} {id parent m : Nat} {ids : List Nat}

/-- Whether the name of a resource, met as a segment of a path, leads to it: a literal must not be
shadowed, and the name of a placeholder must give one segment. -/
def Addressable (c : Catalog) (id : Nat) : Prop :=
  if (c.get id).isPlaceholder then (segmentsOf (c.get id).name).length = 1 else c.Unshadowed id

instance (c : Catalog) (id : Nat) : Decidable (c.Addressable id) :=
  inferInstanceAs (Decidable (if (c.get id).isPlaceholder then
    (segmentsOf (c.get id).name).length = 1 else c.Unshadowed id))

theorem isPlaceholder_of_mem_literalSiblings {k : Nat} (h : k ∈ c.literalSiblings m) :
    (c.get k).isPlaceholder = false := by
  rw [literalSiblings] at h
  split at h
  · simp at h
  · simp_all

theorem Addressable.takes (h : c.Addressable m) :
    ∃ s, segmentsOf (c.get m).name = [s] ∧ c.Takes m s := by
  rw [Addressable] at h
  split at h
  · rename_i hb
    obtain ⟨first, rest, hsegments, hfirst⟩ := segmentsOf_placeholder hb
    obtain rfl : rest = [] := by simpa [hsegments] using h
    refine ⟨first, hsegments, (takes_placeholder hb).mpr fun k hk hname => ?_⟩
    have hlit := isPlaceholder_of_mem_literalSiblings hk
    rw [Resource.isPlaceholder, hname, hfirst] at hlit
    simp at hlit
  · rename_i hb
    exact ⟨(c.get m).name, segmentsOf_eq_singleton h.1, h.takes (by simpa using hb)⟩

theorem takes_of_addressable (h : ∀ m ∈ ids, c.Addressable m) :
    List.Forall₂ c.Takes ids ((c.namesOf ids).flatMap segmentsOf) := by
  induction ids with
  | nil => exact .nil
  | cons m ids ih =>
    obtain ⟨hm, hids⟩ := List.forall_mem_cons.mp h
    obtain ⟨s, hsegments, htakes⟩ := hm.takes
    rw [namesOf, List.map_cons, List.flatMap_cons, hsegments]
    exact .cons htakes (ih hids)

/-- A literal takes some segment, which then is its whole name. -/
theorem unshadowed_of_takes {segments : List String} (h : List.Forall₂ c.Takes ids segments)
    (hsegments : ∀ s ∈ segments, IsSegment s) :
    ∀ m ∈ ids, (c.get m).isPlaceholder = false → c.Unshadowed m := by
  intro m hm hlit
  obtain ⟨s, hs, htakes⟩ := exists_of_mem_forall₂ h m hm
  obtain ⟨rfl, hfirst⟩ := (takes_literal hlit).mp htakes
  exact ⟨hsegments _ hs, hfirst⟩

theorem addressable_of_takes
    (h : List.Forall₂ c.Takes ids ((c.namesOf ids).flatMap segmentsOf)) :
    ∀ m ∈ ids, c.Addressable m := by
  have hliteral : ∀ m ∈ ids, (c.get m).isPlaceholder = false → c.Unshadowed m := by
    refine unshadowed_of_takes h fun s hs => ?_
    obtain ⟨name, -, hname⟩ := List.mem_flatMap.mp hs
    exact isSegment_of_mem_segmentsOf hname
  have hpos : ∀ m ∈ ids, segmentsOf (c.get m).name ≠ [] := by
    intro m hm
    cases hb : (c.get m).isPlaceholder with
    | true =>
      obtain ⟨first, rest, hsegments, -⟩ := segmentsOf_placeholder hb
      simp [hsegments]
    | false => simp [segmentsOf_eq_singleton (hliteral m hm hb).1]
  have hlen : (ids.flatMap fun m => segmentsOf (c.get m).name).length = ids.length := by
    rw [h.length_eq, namesOf, List.flatMap_map]
  intro m hm
  cases hb : (c.get m).isPlaceholder with
  | true =>
    rw [Addressable, if_pos hb]
    have hone := length_eq_of_flatMap (f := fun m => [m])
      (g := fun m => segmentsOf (c.get m).name)
      (fun k hk => List.length_pos_iff.mpr (hpos k hk)) (by rw [hlen, List.flatMap_singleton'])
    exact (hone m hm).symm
  | false =>
    rw [Addressable, if_neg (by simp [hb])]
    exact hliteral m hm hb

theorem Rooted.locate?_path_iff (h : Rooted c) (hid : id < c.rows.size) :
    c.locate? (c.get id).path = some id ↔ ∀ m ∈ c.lineage id, c.Addressable m := by
  rw [h.locate?_eq_some, h.path_eq_joinPath hid, segmentsOf_joinPath]
  exact ⟨fun hwalk => addressable_of_takes hwalk.2, fun ha => ⟨hid, takes_of_addressable ha⟩⟩

/-! ## Plain documents -/

/-- Names are segments, and siblings have different ones. -/
structure Plain (c : Catalog) : Prop where
  segment : ∀ id parent, (c.get id).parent = some parent → IsSegment (c.get id).name
  distinct : c.SiblingsApart (· = ·)

theorem Plain.addressable (h : Plain c) (hr : Rooted c) (hm : (c.get m).parent = some parent) :
    c.Addressable m := by
  have hsegment := h.segment m parent hm
  rw [Addressable]
  split
  · rw [segmentsOf_eq_singleton hsegment, List.length_singleton]
  · refine ⟨hsegment, fun k hk _ hname => ?_⟩
    obtain ⟨hkp, hne, -⟩ := (hr.mem_literalSiblings hm).mp hk
    exact hne (h.distinct k m parent hkp hm hname)

theorem plain_empty : Plain empty := by
  have hget : ∀ id, (empty.get id).parent = none := by
    intro id
    cases id <;> simp [empty, get]
  constructor <;> simp [SiblingsApart, hget]

theorem Plain.push (h : Plain c) (hr : Rooted c) (hp : parent < c.rows.size) {r : Resource}
    (hparent : r.parent = some parent) (hsegment : IsSegment r.name)
    (hfresh : r.name ∉ c.childNames parent) : Plain (c.push parent r) := by
  constructor
  · intro id p hid
    rw [field_push hp r (·.name) fun _ _ => rfl]
    rcases hr.parent_push_cases hp hparent hid with ⟨rfl, -⟩ | ⟨hlt, -, hold⟩
    · rwa [if_pos rfl]
    · rw [if_neg (Nat.ne_of_lt hlt)]
      exact h.segment id p hold
  · refine hr.apart_push hp hparent (fun _ _ => Eq.symm) ?_ h.distinct
    rintro name hmem rfl
    exact hfresh hmem

end Catalog

/-- Whether the text of an entry is a segment that no entry before it in its list has. -/
def Visit.Plain (v : Visit) : Prop :=
  ∀ text ∈ v.entry.text? "text",
    IsSegment text ∧ ∀ other ∈ v.earlier, other.text? "text" ≠ some text

instance (v : Visit) : Decidable v.Plain :=
  inferInstanceAs (Decidable (∀ text ∈ v.entry.text? "text", _ ∧ _))

/-- Whether the texts of a document are segments and those of siblings are distinct. -/
def PlainTexts (document : Json) : Prop := ∀ v ∈ documentVisits document, v.Plain

instance (document : Json) : Decidable (PlainTexts document) :=
  inferInstanceAs (Decidable (∀ v ∈ documentVisits document, v.Plain))

namespace Catalog

variable {c c' : Catalog} {parent : Nat}

theorem childNames_addEntry (h : Rooted c) (hp : parent < c.rows.size) {entry : Cursor}
    (ha : c.addEntry parent entry = .ok c') :
    (c'.childNames parent).map some = (c.childNames parent).map some ++ [entry.text? "text"] := by
  have hc : ∀ child ∈ (c.get parent).children, child < c.rows.size := fun _ => h.child_lt_size
  rw [addEntry_refines entry c parent hp hc, map_eq_ok] at ha
  obtain ⟨o, ho, rfl⟩ := ha
  rw [childNames_graft_single hp hc, Outline.name_of_ofEntry ho, List.map_append]
  rfl

/-- Adding the entry with plain texts to a plain catalog gives a plain catalog. What the entries
before it in its list are called is what the children of the parent are called. -/
def KeepsPlain (entry : Cursor) : Prop :=
  ∀ (c c' : Catalog) (parent : Nat) (path : String) (before : List Cursor),
    Rooted c → Plain c → parent < c.rows.size →
    (c.childNames parent).map some = before.map (·.text? "text") →
    (∀ v ∈ visits path before entry, v.Plain) → c.addEntry parent entry = .ok c' → Plain c'

theorem addEntries_plain {entries : List Cursor} (hk : ∀ entry ∈ entries, KeepsPlain entry)
    (path : String) (before : List Cursor) (hr : Rooted c) (hc : Plain c)
    (hp : parent < c.rows.size)
    (hbefore : (c.childNames parent).map some = before.map (·.text? "text"))
    (hv : ∀ seen child, (seen, child) ∈ withBefore before entries →
      ∀ v ∈ visits path seen child, v.Plain)
    (h : entries.foldlM (fun grown entry => grown.addEntry parent entry) c = .ok c') :
    Plain c' := by
  induction entries generalizing c before with
  | nil =>
    obtain rfl := Except.ok.inj h
    exact hc
  | cons entry rest ih =>
    obtain ⟨hentry, hrest⟩ := List.forall_mem_cons.mp hk
    rw [List.foldlM_cons, bind_eq_ok] at h
    obtain ⟨grown, hgrow, h⟩ := h
    have hplain : Plain grown :=
      hentry c grown parent path before hr hc hp hbefore (hv before entry List.mem_cons_self) hgrow
    obtain ⟨hrooted, hlt⟩ := addEntry_keeps (fun _ _ _ _ _ _ h ha => h.push ha) entry hr hp hgrow
    refine ih hrest (before ++ [entry]) hrooted hplain (by omega) ?_ ?_ h
    · rw [childNames_addEntry hr hp hgrow, hbefore, List.map_append]
      rfl
    · exact fun seen child hm => hv seen child (List.mem_cons_of_mem _ hm)

/-- The induction is on the entry, whose children are entries below the resource just added. -/
theorem keepsPlain (entry : Cursor) : KeepsPlain entry := by
  intro c c' parent path before hr hc hp hbefore hv h
  obtain ⟨name, given, methods, list, ha, hl, h⟩ := (addEntry_eq_ok hp).mp h
  have htext : entry.text? "text" = some name := (entryHeader_eq_ok.mp ha.header).1
  rw [visits_eq, hl] at hv
  obtain ⟨hself, hbelow⟩ := List.forall_mem_cons.mp hv
  obtain ⟨hsegment, hdistinct⟩ := hself name htext
  have hfresh : name ∉ c.childNames parent := by
    intro hm
    have hmem : some name ∈ before.map (·.text? "text") := hbefore ▸ List.mem_map_of_mem hm
    obtain ⟨other, ho, he⟩ := List.mem_map.mp hmem
    exact hdistinct other ho he
  have hk : ∀ child ∈ list, KeepsPlain child := fun child hm =>
    have := sizeOf_lt_of_mem_entriesBelow hl hm
    keepsPlain child
  refine addEntries_plain hk ((entry.text? "path").getD "") [] (hr.push ha)
    (hc.push hr hp rfl hsegment hfresh) (by rw [size_push]; omega) ?_ ?_ h
  · rw [childNames_push_new _ rfl]
    rfl
  · exact fun seen child hm v hv => hbelow v (List.mem_flatMap.mpr ⟨(seen, child), hm, hv⟩)
termination_by sizeOf entry.value

theorem build_plain {document : Json} (hplain : PlainTexts document)
    (h : build document = .ok c) : Plain c := by
  rw [build, bind_eq_ok] at h
  obtain ⟨entries, he, h⟩ := h
  refine addEntries_plain (fun entry _ => keepsPlain entry) "" [] rooted_empty plain_empty
    (by simp [empty, root]) (by simp [childNames, empty, root, get]) ?_ h
  intro seen child hm v hv
  refine hplain v ?_
  rw [documentVisits, liftSchema_eq_ok.mp he]
  exact List.mem_flatMap.mpr ⟨(seen, child), hm, hv⟩

/-- The path of a resource leads back to it exactly when all names on its lineage lead on. In a
catalog of plain texts every path leads back to its resource. -/
theorem locate?_path {document : Json} (h : build document = .ok c) :
    (∀ id, id < c.rows.size →
      (c.locate? (c.get id).path = some id ↔ ∀ m ∈ c.lineage id, c.Addressable m)) ∧
      (PlainTexts document →
        ∀ id, id < c.rows.size → c.locate? (c.get id).path = some id) := by
  have hr := build_rooted h
  refine ⟨fun id hid => hr.locate?_path_iff hid, fun hplain id hid => ?_⟩
  refine (hr.locate?_path_iff hid).mpr fun m hm => ?_
  obtain ⟨parent, hp⟩ := hr.mem_lineage hid m hm
  exact (build_plain hplain h).addressable hr hp

theorem locate?_path_nodes : ∃ c, build nodesDocument = .ok c ∧
    (∀ m ∈ c.lineage 4, c.Addressable m) ∧ c.locate? "/nodes/\x7bnode\x7d/qemu" = some 4 := by
  obtain ⟨c, hc, hlt, hpath⟩ := exists_built nodesDocument
    (P := fun c => 4 < c.rows.size ∧ (c.get 4).path = "/nodes/\x7bnode\x7d/qemu")
    (by decide +kernel)
  obtain ⟨hiff, hplain⟩ := locate?_path hc
  have hback := hplain (by decide +kernel) 4 hlt
  exact ⟨c, hc, (hiff 4 hlt).mp hback, hpath ▸ hback⟩

end Catalog

end ApiAtlas.Resources
