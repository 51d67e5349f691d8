import ApiAtlas.Resources.Entry

/-!
# Outlines

An outline is a resource with its methods and the resources below it, nested as the entries of a
descriptor are. The nested reading of a document makes outlines of its entries one by one, without
the numbers that a catalog gives to resources.
-/

namespace ApiAtlas.Resources

open Schema Descriptor

/-- A resource, its methods and the resources below it. -/
inductive Outline where
  | node (name path : String) (methods : List Method) (children : List Outline)

/-- Each entry of a list with the placeholder among those before it. -/
def withEarlier (earlier : Option String) : List Cursor → List (Option String × Cursor)
  | [] => []
  | entry :: rest =>
    (earlier, entry) ::
      withEarlier (earlier.or ((entry.text? "text").filter isPlaceholderName)) rest

theorem mem_of_mem_withEarlier {earlier seen : Option String} {entry : Cursor}
    {entries : List Cursor} (h : (seen, entry) ∈ withEarlier earlier entries) :
    entry ∈ entries := by
  induction entries generalizing earlier with
  | nil => simp [withEarlier] at h
  | cons first rest ih =>
    rcases List.mem_cons.1 h with h | h
    · simp_all
    · exact List.mem_cons_of_mem _ (ih h)

namespace Outline

def name : Outline → String
  | .node name _ _ _ => name

/-- Reads an entry below a parent path and, after its own checks, the entries below it. -/
def ofEntry (parent : String) (earlier : Option String) (entry : Cursor) :
    Except BuildError Outline := do
  let (name, path) ← entryHeader parent earlier entry
  let methods ← liftSchema (entryMethods entry)
  match _h : entriesBelow entry with
  | .error e => throw (.schema e)
  | .ok list =>
    let children ← (withEarlier none list).attach.mapM fun ⟨(seen, child), _⟩ =>
      ofEntry path seen child
    return .node name path methods children
termination_by sizeOf entry.value
decreasing_by exact sizeOf_lt_of_mem_entriesBelow ‹_› (mem_of_mem_withEarlier ‹_›)

theorem ofEntry_eq (parent : String) (earlier : Option String) (entry : Cursor) :
    ofEntry parent earlier entry = do
      let (name, path) ← entryHeader parent earlier entry
      let methods ← liftSchema (entryMethods entry)
      let list ← liftSchema (entriesBelow entry)
      let children ← (withEarlier none list).mapM fun (seen, child) => ofEntry path seen child
      return .node name path methods children := by
  rw [ofEntry]
  refine bind_congr fun header => bind_congr fun methods => ?_
  split
  · rename_i e he
    rw [he]
    rfl
  · rename_i list hl
    rw [hl]
    simp only [List.mapM_subtype, List.unattach_attach]
    rfl

def ofDocument (document : Json) : Except BuildError (List Outline) := do
  let entries ← liftSchema (Cursor.items { value := document })
  (withEarlier none entries).mapM fun (seen, entry) => ofEntry "" seen entry

mutual

def size : Outline → Nat
  | .node _ _ _ children => sizes children + 1

def sizes : List Outline → Nat
  | [] => 0
  | o :: rest => size o + sizes rest

end

end Outline

end ApiAtlas.Resources
