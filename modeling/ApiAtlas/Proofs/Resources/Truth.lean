import ApiAtlas.Proofs.Descriptor.Truth
import ApiAtlas.Proofs.Resources.Growth
import ApiAtlas.Proofs.Schema.Places

/-!
# What is said of refused documents

A document that cannot be read is refused for the first thing that a reader complains of. If this is
a thing of its schema then it is so in the document, at the place that is named.
-/

namespace ApiAtlas.Resources

open Schema Descriptor Checks

/-- What a complaint says of the schema of a document is true. -/
def BuildError.TrueOf (document : Json) (e : BuildError) : Prop :=
  ∀ said, e = .schema said → said.TrueOf document

variable {document : Json} {entry : Cursor}

/-! ## Entries -/

theorem failsOnly_liftSchema {α : Type} {x : Except SchemaError α}
    (h : FailsOnly (SchemaError.TrueOf document) x) :
    FailsOnly (BuildError.TrueOf document) (liftSchema x) := by
  rintro _ he said rfl
  cases x with
  | ok a => contradiction
  | error e => exact h said (by simpa [liftSchema, Except.mapError] using he)

/-- What is complained of name and path of an entry is not its schema. -/
theorem failsOnly_entryHeader (parent : String) (earlier : Option String) (entry : Cursor) :
    FailsOnly (BuildError.TrueOf document) (entryHeader parent earlier entry) := by
  rintro _ he said rfl
  unfold entryHeader at he
  (repeat' split at he) <;> cases he

theorem failsOnly_entryMethods (h : entry.In document) :
    FailsOnly (SchemaError.TrueOf document) (entryMethods entry) := by
  rw [entryMethods]
  cases hinfo : entry.get? "info" with
  | none => exact failsOnly_ok _
  | some info =>
    have hin := h.get? hinfo
    refine (hin.failsOnly Cursor.entries_eq_error).bind fun entries hentries => ?_
    refine FailsOnly.mapM fun described hdescribed => ?_
    obtain ⟨⟨name, schema⟩, hmem, hverb⟩ := List.mem_filterMap.mp hdescribed
    obtain ⟨verb, -, rfl⟩ := Option.map_eq_some_iff.mp hverb
    exact failsOnly_ofSchema verb (hin.entry hentries hmem)

theorem failsOnly_entriesBelow (h : entry.In document) :
    FailsOnly (SchemaError.TrueOf document) (entriesBelow entry) := by
  rw [entriesBelow]
  cases hchildren : entry.get? "children" with
  | none => exact failsOnly_ok _
  | some children => exact (h.get? hchildren).failsOnly Cursor.items_eq_error

theorem in_of_mem_entriesBelow (h : entry.In document) {list : List Cursor}
    (hlist : entriesBelow entry = .ok list) {child : Cursor} (hchild : child ∈ list) :
    child.In document := by
  unfold entriesBelow at hlist
  split at hlist
  · obtain rfl := Except.ok.inj hlist
    contradiction
  · rename_i children hchildren
    exact (h.get? hchildren).item hlist hchild

/-! ## Documents -/

namespace Catalog

/-- The checks of an entry come before those of the entries below it. -/
theorem failsOnly_addEntry (c : Catalog) (parent : Nat) (entry : Cursor) (h : entry.In document) :
    FailsOnly (BuildError.TrueOf document) (c.addEntry parent entry) := by
  rw [addEntry_eq]
  refine (failsOnly_entryHeader _ _ entry).bind fun header _ => ?_
  refine (failsOnly_liftSchema (failsOnly_entryMethods h)).bind fun methods _ => ?_
  refine (failsOnly_liftSchema (failsOnly_entriesBelow h)).bind fun list hlist => ?_
  rw [liftSchema_eq_ok] at hlist
  refine FailsOnly.foldlM (fun child hchild grown => ?_) _
  have := sizeOf_lt_of_mem_entriesBelow hlist hchild
  exact failsOnly_addEntry grown _ child (in_of_mem_entriesBelow h hlist hchild)
termination_by sizeOf entry.value

theorem failsOnly_build (document : Json) :
    FailsOnly (BuildError.TrueOf document) (build document) := by
  rw [build]
  have hroot := Cursor.in_root document
  have hitems := failsOnly_liftSchema (hroot.failsOnly Cursor.items_eq_error)
  refine hitems.bind fun entries hentries => ?_
  rw [liftSchema_eq_ok] at hentries
  exact FailsOnly.foldlM (fun entry hentry c =>
    failsOnly_addEntry c root entry (hroot.item hentries hentry)) empty

/-- A document is refused for its schema by saying what is so at one of its places. If all names in
the document are plain then no other of its places has the text of this one. -/
theorem build_refuses_truly {document : Json} {e : SchemaError}
    (h : build document = .error (.schema e)) :
    ∃ place v, e.place? = some place ∧ Location.get? document place = some v ∧ e.SaysOf v ∧
      (PlainNames document → ∀ other w, Location.get? document other = some w →
        other.text = place.text → other = place) := by
  obtain ⟨place, v, hplace, hv, hsays⟩ := failsOnly_build document _ h e rfl
  exact ⟨place, v, hplace, hv, hsays, fun hplain other w hw => hplain.eq_of_text_eq hv hw⟩

def wordBoundDocument : Json := .arr [
  .obj [("text", .str "nodes"), ("path", .str "/nodes"), ("children", .arr [
    .obj [("text", .str "status"), ("path", .str "/nodes/status"),
      ("info", .obj [("GET", .obj [("name", .str "status"),
        ("parameters", .obj [("properties", .obj [
          ("count", .obj [("minimum", .str "few")])])])])])]])]]

theorem build_refuses_truly_word_bound :
    ∃ place, build wordBoundDocument = .error (.schema (.unexpectedShape place .number)) ∧
      place.text = "$[0].children[0].info.GET.parameters.properties.count.minimum" ∧
      (∃ v, Location.get? wordBoundDocument place = some v ∧ ¬ Shape.number.Fits v) ∧
      ∀ other w, Location.get? wordBoundDocument other = some w → other.text = place.text →
        other = place := by
  have hbuild : build wordBoundDocument = .error (.schema (.unexpectedShape [.index 0,
      .key "children", .index 0, .key "info", .key "GET", .key "parameters", .key "properties",
      .key "count", .key "minimum"] .number)) := complaint?_eq_some.mp (by decide +kernel)
  obtain ⟨place, v, hplace, hv, hsays, honly⟩ := build_refuses_truly hbuild
  obtain rfl := Option.some.inj hplace
  have hplain : PlainNames wordBoundDocument := plainNames_of_written (by decide +kernel)
  exact ⟨_, hbuild, by decide +kernel, ⟨v, hv, hsays⟩, honly hplain⟩

end Catalog

end ApiAtlas.Resources
