import ApiAtlas.Proofs.Resources.Growth

/-!
# Catalogs with other methods

The resources of a catalog, their numbers and their ways to each other do not depend on their
methods: a catalog whose methods are changed one by one is the same in everything else, and it grows
in the same way.
-/

namespace ApiAtlas.Resources

open Descriptor

def Resource.mapMethods (f : Method → Method) (r : Resource) : Resource :=
  { r with methods := r.methods.map f }

namespace Catalog

def mapMethods (f : Method → Method) (c : Catalog) : Catalog := ⟨c.rows.map (·.mapMethods f)⟩

variable (f : Method → Method)

@[simp] theorem size_mapMethods (c : Catalog) : (c.mapMethods f).rows.size = c.rows.size :=
  Array.size_map ..

@[simp] theorem get_mapMethods (c : Catalog) (id : Nat) :
    (c.mapMethods f).get id = (c.get id).mapMethods f := by
  rw [get, get, mapMethods, Array.getElem?_map]
  cases c.rows[id]? <;> rfl

theorem children_mapMethods (c : Catalog) (id : Nat) :
    (c.mapMethods f).children id =
      (c.children id).map fun child => (child.1, child.2.mapMethods f) := by
  simp [children, Resource.mapMethods]

theorem placeholderName?_mapMethods (c : Catalog) (id : Nat) :
    (c.mapMethods f).placeholderName? id = c.placeholderName? id := by
  have hnames : (c.mapMethods f).childNames id = c.childNames id := by
    simp [childNames, Resource.mapMethods]
  rw [placeholderName?_eq, placeholderName?_eq, hnames]

theorem push_mapMethods (c : Catalog) (parent : Nat) (r : Resource) :
    (c.mapMethods f).push parent (r.mapMethods f) = (c.push parent r).mapMethods f := by
  have hmodify : (c.rows.map (·.mapMethods f)).modify parent
        (fun p => { p with children := p.children ++ [c.rows.size] }) =
      (c.rows.modify parent fun p => { p with children := p.children ++ [c.rows.size] }).map
        (·.mapMethods f) := by
    refine Array.ext_getElem? fun i => ?_
    simp only [Array.getElem?_modify, Array.getElem?_map]
    split
    · cases c.rows[i]? <;> rfl
    · rfl
  simp only [push, mapMethods, Array.map_push, Array.size_map, hmodify]

theorem resourceBelow_mapMethods (c : Catalog) (parent : Nat) (name path : String)
    (methods : List Method) :
    (c.mapMethods f).resourceBelow parent name path (methods.map f) =
      (c.resourceBelow parent name path methods).mapMethods f := by
  simp [resourceBelow, Resource.mapMethods]

theorem empty_mapMethods : empty.mapMethods f = empty := by
  simp [mapMethods, empty, Resource.mapMethods]

theorem descendants_mapMethods (c : Catalog) (id : Nat) :
    (c.mapMethods f).descendants id = c.descendants id := by
  have hchildren : ∀ id, ((c.mapMethods f).get id).children = (c.get id).children := fun id => by
    rw [get_mapMethods]
    rfl
  have hvisit : ∀ t : Traversal, t.visit (c.mapMethods f) = t.visit c := by
    rintro ⟨_ | ⟨id, stack⟩, visited⟩
    · rfl
    · simp only [Traversal.visit, hchildren]
  have hrun : ∀ (n : Nat) (t : Traversal),
      Traversal.run (c.mapMethods f) n t = Traversal.run c n t := by
    intro n
    induction n with
    | zero => exact fun _ => rfl
    | succ n ih =>
      intro t
      rw [Traversal.run, Traversal.run, hvisit, ih]
  rw [descendants, descendants, hrun, size_mapMethods, Traversal.start, Traversal.start, hchildren]

end Catalog

end ApiAtlas.Resources
