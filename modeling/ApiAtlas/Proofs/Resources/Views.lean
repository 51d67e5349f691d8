import ApiAtlas.Proofs.Descriptor.Views
import ApiAtlas.Resources.Entry

/-!
# Views of entries

A view that keeps all members of entries shows the entries of a document where they are, with the
views of the methods that they describe.
-/

namespace ApiAtlas.Resources

open Descriptor Schema

/-- A view leaves out and sorts nothing outside of the descriptions of methods. -/
structure KeepsEntries (w : View) : Prop where
  sorts_entry : w.sorts .entry = false
  sorts_methods : w.sorts .methods = false
  omits_entry : ∀ name, w.omits .entry name = false
  omits_methods : ∀ name, w.omits .methods name = false

/-- The descriptions of methods in an entry, with their verbs. -/
def describedMethods (entry : Cursor) : Except SchemaError (List (Verb × Cursor)) :=
  match entry.get? "info" with
  | none => .ok []
  | some info =>
    List.filterMap (fun member => (Verb.ofText? member.1).map fun verb => (verb, member.2)) <$>
      info.entries

theorem entryMethods_eq (entry : Cursor) :
    entryMethods entry =
      describedMethods entry >>= List.mapM fun member => Method.ofSchema member.1 member.2 := by
  rw [entryMethods, describedMethods]
  cases entry.get? "info" with
  | none => rfl
  | some info => cases hinfo : info.entries <;> simp only [hinfo] <;> rfl

variable {w : View}

theorem get?_look_entry (hw : KeepsEntries w) (entry : Cursor) (name : String) :
    (w.look .entry entry).get? name = (entry.get? name).map (w.look (Part.entry.member name)) := by
  rw [View.get?_look hw.sorts_entry, hw.omits_entry, if_neg Bool.false_ne_true]

theorem text?_look_entry (hw : KeepsEntries w) (entry : Cursor) (name : String) :
    (w.look .entry entry).text? name = entry.text? name := by
  rw [View.text?_look hw.sorts_entry, hw.omits_entry, if_neg Bool.false_ne_true]

theorem entryHeader_look (hw : KeepsEntries w) (parent : String) (earlier : Option String)
    (entry : Cursor) :
    entryHeader parent earlier (w.look .entry entry) = entryHeader parent earlier entry := by
  rw [entryHeader, entryHeader, text?_look_entry hw, text?_look_entry hw]
  rfl

theorem describedMethods_look (hw : KeepsEntries w) (entry : Cursor) :
    describedMethods (w.look .entry entry) =
      List.map (fun member => (member.1, w.look .method member.2)) <$> describedMethods entry := by
  rw [describedMethods, describedMethods, get?_look_entry hw]
  cases entry.get? "info" with
  | none => rfl
  | some info =>
    simp only [Option.map_some]
    change _ <$> (w.look .methods info).entries = _
    rw [View.entries_look hw.sorts_methods hw.omits_methods]
    cases info.entries with
    | error e => rfl
    | ok members =>
      refine congrArg Except.ok ?_
      simp only [List.filterMap_map, List.map_filterMap, Function.comp_def, Option.map_map]
      rfl

theorem entriesBelow_look (hw : KeepsEntries w) (entry : Cursor) :
    entriesBelow (w.look .entry entry) = List.map (w.look .entry) <$> entriesBelow entry := by
  rw [entriesBelow, entriesBelow, get?_look_entry hw]
  cases entry.get? "children" with
  | none => rfl
  | some children => exact View.items_look

end ApiAtlas.Resources
