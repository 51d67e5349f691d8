import ApiAtlas.Proofs.Descriptor.Core
import ApiAtlas.Proofs.Resources.Methods
import ApiAtlas.Proofs.Resources.Views

/-!
# Catalogs of documents with the same core

Two documents with the same core, if both are accepted, have the same resources, with methods of the
same core.
-/

namespace ApiAtlas.Resources

open Checks Descriptor Schema

theorem keepsEntries_coreView : KeepsEntries coreView := by
  constructor <;> intros <;> rfl

section Entries

variable {entry other : Cursor} (hsame : coreView.look .entry entry = coreView.look .entry other)
include hsame

theorem text?_of_look (name : String) : entry.text? name = other.text? name := by
  rw [← text?_look_entry keepsEntries_coreView, hsame, text?_look_entry keepsEntries_coreView]

theorem map_core_of_look {methods methods' : List Method} (h : entryMethods entry = .ok methods)
    (h' : entryMethods other = .ok methods') :
    methods.map Method.core = methods'.map Method.core := by
  rw [entryMethods_eq, bind_eq_ok] at h h'
  obtain ⟨members, hmembers, h⟩ := h
  obtain ⟨members', hmembers', h'⟩ := h'
  have hlook := describedMethods_look keepsEntries_coreView entry
  rw [hsame, describedMethods_look keepsEntries_coreView, hmembers, hmembers'] at hlook
  refine map_eq_of_mapM (fun member member' m n hmember hm hn => ?_) (Except.ok.inj hlook).symm h h'
  obtain ⟨hverb, hschema⟩ := Prod.mk.inj hmember
  rw [← hverb] at hn
  exact Method.core_eq_of_look hschema hm hn

theorem map_look_of_entriesBelow {list list' : List Cursor} (h : entriesBelow entry = .ok list)
    (h' : entriesBelow other = .ok list') :
    list.map (coreView.look .entry) = list'.map (coreView.look .entry) := by
  have hlook := entriesBelow_look keepsEntries_coreView entry
  rw [hsame, entriesBelow_look keepsEntries_coreView, h, h'] at hlook
  exact (Except.ok.inj hlook).symm

end Entries

namespace Catalog

/-- Adding entries with the same core keeps catalogs the same up to the cores of their methods. -/
theorem mapMethods_core_of_addEntry (entry : Cursor) {other : Cursor}
    (hsame : coreView.look .entry entry = coreView.look .entry other) {c d c' d' : Catalog}
    {parent : Nat} (hcd : c.mapMethods Method.core = d.mapMethods Method.core)
    (hc : c.addEntry parent entry = .ok c') (hd : d.addEntry parent other = .ok d') :
    c'.mapMethods Method.core = d'.mapMethods Method.core := by
  rw [addEntry_eq] at hc hd
  simp only [bind_eq_ok, Prod.exists] at hc hd
  obtain ⟨name, path, hheader, methods, hmethods, list, hlist, hc⟩ := hc
  obtain ⟨name', path', hheader', methods', hmethods', list', hlist', hd⟩ := hd
  rw [liftSchema_eq_ok] at hmethods hmethods' hlist hlist'
  obtain ⟨hname, hpath, -⟩ := entryHeader_eq_ok.mp hheader
  obtain ⟨hname', hpath', -⟩ := entryHeader_eq_ok.mp hheader'
  rw [text?_of_look hsame] at hname hpath
  obtain rfl := Option.some.inj (hname.symm.trans hname')
  obtain rfl := Option.some.inj (hpath.symm.trans hpath')
  have hsize : c.rows.size = d.rows.size := by
    rw [← size_mapMethods Method.core c, hcd, size_mapMethods]
  have hpush : (c.push parent (c.resourceBelow parent name path methods)).mapMethods Method.core =
      (d.push parent (d.resourceBelow parent name path methods')).mapMethods Method.core := by
    rw [← push_mapMethods, ← push_mapMethods, ← resourceBelow_mapMethods,
      ← resourceBelow_mapMethods, hcd, map_core_of_look hsame hmethods hmethods']
  rw [← hsize] at hd
  refine eq_of_foldlM (fun child hchild child' s t s' t' hlook hst hs ht => ?_)
    (map_look_of_entriesBelow hsame hlist hlist') hpush hc hd
  have := sizeOf_lt_of_mem_entriesBelow hlist hchild
  exact mapMethods_core_of_addEntry child hlook hst hs ht
termination_by sizeOf entry.value

/-- The catalogs of two documents with the same core are the same up to the cores of their
methods. -/
theorem mapMethods_core_of_build {first second : Json}
    (hsame : core .entries first = core .entries second) {c d : Catalog}
    (hc : build first = .ok c) (hd : build second = .ok d) :
    c.mapMethods Method.core = d.mapMethods Method.core := by
  rw [build, bind_eq_ok] at hc hd
  obtain ⟨entries, hentries, hc⟩ := hc
  obtain ⟨entries', hentries', hd⟩ := hd
  rw [liftSchema_eq_ok] at hentries hentries'
  have hlook : coreView.look .entries { value := first } =
      coreView.look .entries { value := second } := congrArg (Cursor.mk · []) hsame
  have hitems : (coreView.look .entries { value := first }).items =
      List.map (coreView.look .entry) <$> Cursor.items { value := first } := View.items_look
  rw [hlook, View.items_look, hentries, hentries'] at hitems
  exact eq_of_foldlM (fun child _ child' s t s' t' hchild hst hs ht =>
    mapMethods_core_of_addEntry child hchild hst hs ht) (Except.ok.inj hitems).symm rfl hc hd

end Catalog

end ApiAtlas.Resources
