import ApiAtlas.Proofs.Descriptor.Undescribed
import ApiAtlas.Proofs.Resources.Methods
import ApiAtlas.Proofs.Resources.Views

/-!
# Catalogs without descriptions

A document without descriptions is accepted as the document is, and its catalog is that of the
document, without descriptions.
-/

namespace ApiAtlas.Resources

open Checks Descriptor Schema

/-! ## Entries -/

theorem keepsEntries_descriptionless : KeepsEntries descriptionless := by
  constructor <;> intros <;> rfl

theorem entryHeader_bare (parent : String) (earlier : Option String) (entry : Cursor) :
    entryHeader parent earlier (bare .entry entry) = entryHeader parent earlier entry := by
  rw [bare_eq_look]
  exact entryHeader_look keepsEntries_descriptionless parent earlier entry

theorem entryMethods_bare (entry : Cursor) :
    entryMethods (bare .entry entry) = List.map Method.undescribed <$> entryMethods entry := by
  rw [entryMethods_eq, entryMethods_eq, bare_eq_look,
    describedMethods_look keepsEntries_descriptionless, ← bare_eq_look]
  cases describedMethods entry with
  | error e => rfl
  | ok members => exact mapM_map fun member _ => method_bare member.1 member.2

theorem entriesBelow_bare (entry : Cursor) :
    entriesBelow (bare .entry entry) = List.map (bare .entry) <$> entriesBelow entry := by
  rw [bare_eq_look]
  exact entriesBelow_look keepsEntries_descriptionless entry

/-! ## Catalogs -/

def Resource.undescribed (r : Resource) : Resource :=
  { r with methods := r.methods.map Method.undescribed }

namespace Catalog

def undescribed (c : Catalog) : Catalog := ⟨c.rows.map Resource.undescribed⟩

theorem undescribed_eq_mapMethods (c : Catalog) :
    c.undescribed = c.mapMethods Method.undescribed := rfl

theorem addEntry_bare (c : Catalog) (parent : Nat) (entry : Cursor) :
    c.undescribed.addEntry parent (bare .entry entry) =
      undescribed <$> c.addEntry parent entry := by
  have hpath : ((c.get parent).mapMethods Method.undescribed).path = (c.get parent).path := rfl
  rw [addEntry_eq, addEntry_eq, undescribed_eq_mapMethods, get_mapMethods,
    placeholderName?_mapMethods, size_mapMethods, hpath, entryHeader_bare, entryMethods_bare,
    entriesBelow_bare]
  cases entryHeader (c.get parent).path (c.placeholderName? parent) entry with
  | error e => rfl
  | ok header =>
    obtain ⟨name, path⟩ := header
    cases entryMethods entry with
    | error e => rfl
    | ok methods =>
      cases hlist : entriesBelow entry with
      | error e => rfl
      | ok list =>
        change (list.map (bare .entry)).foldlM (fun grown child => grown.addEntry c.rows.size child)
            ((c.mapMethods Method.undescribed).push parent
              ((c.mapMethods Method.undescribed).resourceBelow parent name path
                (methods.map Method.undescribed))) =
          undescribed <$> list.foldlM (fun grown child => grown.addEntry c.rows.size child)
            (c.push parent (c.resourceBelow parent name path methods))
        rw [resourceBelow_mapMethods, push_mapMethods]
        refine foldlM_map (fun grown child hchild => ?_) _
        have := sizeOf_lt_of_mem_entriesBelow hlist hchild
        exact addEntry_bare grown c.rows.size child
termination_by sizeOf entry.value

/-- Descriptions decide nothing about a document: without them it is accepted as before, or the
complaint is the same. -/
theorem build_undescribed (document : Json) :
    build (Descriptor.undescribed .entries document) = undescribed <$> build document := by
  have hitems : Cursor.items { value := Descriptor.undescribed .entries document } =
      List.map (bare .entry) <$> Cursor.items { value := document } :=
    items_bare (c := { value := document })
  rw [build, build, hitems]
  cases Cursor.items { value := document } with
  | error e => rfl
  | ok entries =>
    have hempty : empty.undescribed = empty := empty_mapMethods Method.undescribed
    have hfold : (entries.map (bare .entry)).foldlM (fun c entry => addEntry c root entry)
          empty.undescribed =
        undescribed <$> entries.foldlM (fun c entry => addEntry c root entry) empty :=
      foldlM_map (fun c entry _ => addEntry_bare c root entry) empty
    rwa [hempty] at hfold

end Catalog

end ApiAtlas.Resources
