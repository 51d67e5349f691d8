import ApiAtlas.Proofs.Lists
import ApiAtlas.Proofs.Resources.Acceptance

/-!
# The complaint about a document

A reader that goes through a document depth first meets every entry once, below a path and behind
the entries before it in its list, and makes the same checks of each in the same order. Building a
catalog complains exactly of the first check that fails on this way.
-/

namespace ApiAtlas.Resources

open Schema Descriptor Checks ListLaws

/-- An entry as a reader meets it. -/
structure Visit where
  /-- The path of the resource above. -/
  parent : String
  /-- The entries before it in its list. -/
  earlier : List Cursor
  entry : Cursor

/-- What is checked of an entry. -/
inductive Check where
  | text
  | path
  | extension
  | placeholder
  | info
  | children
  deriving DecidableEq, Repr

/-- The checks in the order in which they are made. -/
def Check.inOrder : List Check := [.text, .path, .extension, .placeholder, .info, .children]

def placeholderAmong (entries : List Cursor) : Option String :=
  entries.findSome? fun entry => (entry.text? "text").filter isPlaceholderName

/-- The complaint about what an entry says of its methods: it is no object, or a member of it that
is named for a verb describes no method. -/
def infoComplaint? (info : Cursor) : Option SchemaError :=
  match info.value.members? with
  | none => some (.unexpectedShape info.place .object)
  | some fields => fields.findSome? fun (name, v) =>
    (Verb.ofText? name).bind fun verb => complaint? (Method.ofSchema verb (info.step (.key name) v))

/-- The complaint of a check about an entry; none if the entry passes. -/
def Visit.complaint? (v : Visit) : Check → Option BuildError
  | .text =>
    match v.entry.text? "text" with
    | some _ => none
    | none =>
      let path := (v.entry.text? "path").getD (v.parent ++ "/<" ++ v.entry.place.text ++ ">")
      some (.missingField path .text)
  | .path =>
    match v.entry.text? "text", v.entry.text? "path" with
    | some text, none => some (.missingField (pathBelow v.parent text) .path)
    | _, _ => none
  | .extension =>
    match v.entry.text? "text", v.entry.text? "path" with
    | some text, some path =>
      if path = pathBelow v.parent text then none else some (.pathMismatch path v.parent text)
    | _, _ => none
  | .placeholder =>
    match v.entry.text? "text", placeholderAmong v.earlier with
    | some text, some existing =>
      if isPlaceholderName text then some (.secondPlaceholder v.parent existing text) else none
    | _, _ => none
  | .info => ((v.entry.get? "info").bind infoComplaint?).map .schema
  | .children =>
    match v.entry.get? "children" with
    | none => none
    | some children =>
      match children.value.items? with
      | some _ => none
      | none => some (.schema (.unexpectedShape children.place .array))

/-- The entries of a list, each with those before it. -/
def withBefore (before : List Cursor) : List Cursor → List (List Cursor × Cursor)
  | [] => []
  | entry :: rest => (before, entry) :: withBefore (before ++ [entry]) rest

theorem mem_of_mem_withBefore {before seen : List Cursor} {entry : Cursor} {entries : List Cursor}
    (h : (seen, entry) ∈ withBefore before entries) : entry ∈ entries := by
  induction entries generalizing before with
  | nil => simp [withBefore] at h
  | cons first rest ih =>
    rcases List.mem_cons.mp h with h | h
    · simp_all
    · exact List.mem_cons_of_mem _ (ih h)

/-- The entries of a list that could be read, none otherwise. -/
def entriesIn : Except SchemaError (List Cursor) → List Cursor
  | .ok entries => entries
  | .error _ => []

/-- The visits of an entry and of all entries below it, depth first. -/
def visits (parent : String) (earlier : List Cursor) (entry : Cursor) : List Visit :=
  ⟨parent, earlier, entry⟩ ::
    (withBefore [] (entriesIn (entriesBelow entry))).attach.flatMap fun ⟨(seen, child), _⟩ =>
      visits ((entry.text? "path").getD "") seen child
termination_by sizeOf entry.value
decreasing_by
  have hmem := mem_of_mem_withBefore ‹_›
  cases hl : entriesBelow entry with
  | error e => simp [hl, entriesIn] at hmem
  | ok list => exact sizeOf_lt_of_mem_entriesBelow hl (by simpa [hl, entriesIn] using hmem)

def documentVisits (document : Json) : List Visit :=
  (withBefore [] (entriesIn (Cursor.items { value := document }))).flatMap
    fun (seen, entry) => visits "" seen entry

/-- All checks of a document in the order in which they are made. -/
def documentChecks (document : Json) : List (Visit × Check) :=
  (documentVisits document).flatMap fun v => Check.inOrder.map fun check => (v, check)

/-- The first complaint on the way through a document: that it is no list, or that of the first
check that fails. -/
def firstComplaint? (document : Json) : Option BuildError :=
  match document.items? with
  | none => some (.schema (.unexpectedShape [] .array))
  | some _ => (documentChecks document).findSome? fun (v, check) => v.complaint? check

/-! ## The checks of one entry -/

/-- The complaint of the first check that an entry fails. -/
def Visit.first? (v : Visit) : Option BuildError := Check.inOrder.findSome? v.complaint?

theorem complaint?_entryHeader (v : Visit) :
    complaint? (entryHeader v.parent (placeholderAmong v.earlier) v.entry) =
      [Check.text, .path, .extension, .placeholder].findSome? v.complaint? := by
  unfold entryHeader
  simp only [List.findSome?, Visit.complaint?]
  cases v.entry.text? "text" with
  | none => rfl
  | some text =>
    cases v.entry.text? "path" with
    | none => rfl
    | some path =>
      by_cases hp : path = pathBelow v.parent text
      · subst hp
        cases placeholderAmong v.earlier with
        | none => simp
        | some existing => cases hb : isPlaceholderName text <;> simp [hb]
      · simp [hp]

theorem complaint?_entryMethods (entry : Cursor) :
    complaint? (entryMethods entry) = (entry.get? "info").bind infoComplaint? := by
  cases hi : entry.get? "info" with
  | none => rw [entryMethods_none hi]; rfl
  | some info =>
    rw [entryMethods_some hi]
    simp only [Option.bind_some, infoComplaint?, Cursor.entries, Cursor.asMembers]
    cases info.value.members? with
    | none => rfl
    | some fields =>
      change complaint? (List.mapM _ (List.filterMap _ (fields.map _))) = fields.findSome? _
      rw [complaint?_mapM]
      induction fields with
      | nil => rfl
      | cons field rest ih =>
        obtain ⟨name, v⟩ := field
        rw [List.findSome?_cons, ← ih]
        cases hv : Verb.ofText? name <;> simp [hv, List.findSome?_cons]

theorem complaint?_entriesBelow (v : Visit) :
    (complaint? (entriesBelow v.entry)).map .schema = v.complaint? .children := by
  simp only [Visit.complaint?, entriesBelow]
  cases v.entry.get? "children" with
  | none => rfl
  | some children =>
    simp only [Cursor.items, Cursor.asArray]
    cases children.value.items? <;> rfl

theorem first?_eq (v : Visit) :
    v.first? =
      ((complaint? (entryHeader v.parent (placeholderAmong v.earlier) v.entry)).or
        ((complaint? (entryMethods v.entry)).map .schema)).or
          ((complaint? (entriesBelow v.entry)).map .schema) := by
  rw [complaint?_entryHeader, complaint?_entryMethods, complaint?_entriesBelow]
  change ([Check.text, .path, .extension, .placeholder] ++ [Check.info, .children]).findSome? _ = _
  rw [List.findSome?_append, Option.or_assoc]
  congr 1
  rw [List.findSome?_cons, List.findSome?_singleton]
  simp only [Visit.complaint?]
  cases (v.entry.get? "info").bind infoComplaint? <;> rfl

/-! ## The way through the document -/

theorem visits_eq (parent : String) (earlier : List Cursor) (entry : Cursor) :
    visits parent earlier entry = ⟨parent, earlier, entry⟩ ::
      (withBefore [] (entriesIn (entriesBelow entry))).flatMap fun (seen, child) =>
        visits ((entry.text? "path").getD "") seen child := by
  rw [visits]
  simp only [List.flatMap_subtype, List.unattach_attach]

theorem findSome?_checks (met : List Visit) :
    (met.flatMap fun v => Check.inOrder.map fun check => (v, check)).findSome?
      (fun (v, check) => v.complaint? check) = met.findSome? Visit.first? := by
  rw [findSome?_flatMap]
  simp only [List.findSome?_map]
  rfl

/-- Reading an entry complains of the first check that fails at it or below it. -/
def Complains (entry : Cursor) : Prop :=
  ∀ parent earlier, complaint? (Outline.ofEntry parent (placeholderAmong earlier) entry) =
    (visits parent earlier entry).findSome? Visit.first?

theorem complaint?_ofEntries {entries : List Cursor} (hr : ∀ entry ∈ entries, Complains entry)
    (parent : String) (before : List Cursor) :
    complaint? ((withEarlier (placeholderAmong before) entries).mapM
        fun (seen, entry) => Outline.ofEntry parent seen entry) =
      ((withBefore before entries).flatMap fun (seen, entry) =>
        visits parent seen entry).findSome? Visit.first? := by
  rw [complaint?_mapM]
  induction entries generalizing before with
  | nil => rfl
  | cons entry rest ih =>
    have hnext : (placeholderAmong before).or ((entry.text? "text").filter isPlaceholderName) =
        placeholderAmong (before ++ [entry]) := by
      simp [placeholderAmong]
    rw [withEarlier, withBefore, List.findSome?_cons, List.flatMap_cons, List.findSome?_append,
      hnext, ih (fun e hm => hr e (List.mem_cons_of_mem _ hm)),
      ← hr entry List.mem_cons_self parent before]
    cases complaint? _ <;> rfl

theorem complaint?_ofEntry (entry : Cursor) : Complains entry := by
  intro parent earlier
  rw [visits_eq, List.findSome?_cons, first?_eq, Outline.ofEntry_eq]
  simp only
  cases hh : entryHeader parent (placeholderAmong earlier) entry with
  | error e => rfl
  | ok header =>
    obtain ⟨name, path⟩ := header
    obtain ⟨-, hp, -, -⟩ := entryHeader_eq_ok.mp hh
    cases hm : entryMethods entry with
    | error e => rfl
    | ok methods =>
      cases hl : entriesBelow entry with
      | error e => rfl
      | ok list =>
        have hr : ∀ child ∈ list, Complains child := fun child hmem =>
          have := sizeOf_lt_of_mem_entriesBelow hl hmem
          complaint?_ofEntry child
        have hbelow := complaint?_ofEntries hr path []
        rw [show placeholderAmong [] = none from rfl] at hbelow
        simp only [hp, Option.getD_some, entriesIn]
        rw [← hbelow]
        change complaint? (List.mapM _ (withEarlier none list) >>= fun children =>
          Except.ok (Outline.node name path methods children)) = complaint? (List.mapM _ _)
        generalize List.mapM (m := Except BuildError) _ _ = read
        cases read <;> rfl
termination_by sizeOf entry.value

/-- The nested reading of a document ends with the first complaint on the way through it. -/
theorem complaint?_ofDocument (document : Json) :
    complaint? (Outline.ofDocument document) = firstComplaint? document := by
  rw [Outline.ofDocument, firstComplaint?, documentChecks, documentVisits]
  cases hi : document.items? with
  | none =>
    simp only [Cursor.items, Cursor.asArray, hi, Cursor.mismatch]
    rfl
  | some items =>
    obtain ⟨entries, he⟩ : ∃ entries, Cursor.items { value := document } = .ok entries := by
      simp [Cursor.items, Cursor.asArray, hi]
    rw [findSome?_checks, he, entriesIn,
      ← complaint?_ofEntries (fun entry _ => complaint?_ofEntry entry)]
    rfl

/-! ## Building -/

theorem exists_build (document : Json) :
    (∃ c, Catalog.build document = .ok c) ↔ DocumentFits document := by
  rw [← exists_ofDocument]
  simp only [Catalog.build_refines, map_eq_ok]
  exact ⟨fun ⟨_, os, h, _⟩ => ⟨os, h⟩, fun ⟨os, h⟩ => ⟨_, os, h, rfl⟩⟩

/-- Building reads a document as the nested reading does. It succeeds exactly for fitting documents;
the nested view of the catalog then has one resource for each entry, in document order at every
level, with the name, path and methods that the entry tells; otherwise it fails with the complaint
of the first check that fails on the way through the document. -/
theorem build_reads_document (document : Json) :
    (fun c => Branch.outlines c.branches) <$> Catalog.build document =
        Outline.ofDocument document ∧
      ((∃ c, Catalog.build document = .ok c) ↔ DocumentFits document) ∧
      (∀ c, Catalog.build document = .ok c →
        ∃ entries, Cursor.items { value := document } = .ok entries ∧
          List.Forall₂ Depicts entries (Branch.outlines c.branches)) ∧
      ∀ e, Catalog.build document = .error e ↔ firstComplaint? document = some e := by
  refine ⟨Catalog.outlines_build document, exists_build document, fun c hc => ?_, fun e => ?_⟩
  · apply depicts_of_ofDocument
    rw [← Catalog.outlines_build, hc]
    rfl
  · rw [← complaint?_ofDocument, ← Catalog.outlines_build, complaint?_map, complaint?_eq_some]

end ApiAtlas.Resources
