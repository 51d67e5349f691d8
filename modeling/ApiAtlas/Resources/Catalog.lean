import ApiAtlas.Resources.Entry
import ApiAtlas.Schema.Payload

/-!
# Catalogs

A catalog numbers the resources of a descriptor depth first, the root being number 0, so that a
subtree is a run of numbers. Each resource knows its parent, its children and the key chain: the
names of the placeholders on the way to it. A catalog grows entry by entry: a new resource gets the
next number, and what its parent holds by then decides whether the entry fits.
-/

namespace ApiAtlas.Resources

open Schema Descriptor

structure Resource where
  name : String := ""
  path : String := ""
  keyChain : List String := []
  methods : List Method := []
  children : List Nat := []
  parent : Option Nat := none

instance : Inhabited Resource := ⟨{}⟩

namespace Resource

def isPlaceholder (r : Resource) : Bool := isPlaceholderName r.name

def indexName (r : Resource) : String := withoutBraces r.name

def hasChildren (r : Resource) : Bool := !r.children.isEmpty

def method? (r : Resource) (verb : Verb) : Option Method := r.methods.find? (·.verb == verb)

def hasMethod (r : Resource) (verb : Verb) : Bool := (r.method? verb).isSome

end Resource

/-- The key chain of a resource below one with a given chain. -/
def extendChain (chain : List String) (name : String) : List String :=
  if isPlaceholderName name then chain ++ [withoutBraces name] else chain

/-- The resources of a descriptor by number. -/
structure Catalog where
  rows : Array Resource

namespace Catalog

/-- The number of the root, which stands above all entries. -/
def root : Nat := 0

def get (c : Catalog) (id : Nat) : Resource := c.rows[id]?.getD {}

/-- The number of resources without the root. -/
def size (c : Catalog) : Nat := c.rows.size - 1

/-- The children of a resource with their numbers. -/
def children (c : Catalog) (id : Nat) : List (Nat × Resource) :=
  (c.get id).children.map fun child => (child, c.get child)

/-- The child that stands for any segment. -/
def placeholderChild? (c : Catalog) (id : Nat) : Option Nat :=
  ((c.children id).find? fun (_, r) => r.isPlaceholder).map (·.1)

/-- The first child with a name that is no placeholder. -/
def literalChild? (c : Catalog) (id : Nat) (name : String) : Option Nat :=
  ((c.children id).find? fun (_, r) => !r.isPlaceholder && r.name == name).map (·.1)

/-- The catalog of a document without entries: the root alone. -/
def empty : Catalog := ⟨#[{}]⟩

/-- Adds a resource as the last child of another; it gets the next number. -/
def push (c : Catalog) (parent : Nat) (r : Resource) : Catalog :=
  let id := c.rows.size
  let rows := c.rows.modify parent fun p => { p with children := p.children ++ [id] }
  ⟨rows.push r⟩

/-- The resource that an entry adds below another. -/
def resourceBelow (c : Catalog) (parent : Nat) (name path : String) (methods : List Method) :
    Resource :=
  { name, path, methods, keyChain := extendChain (c.get parent).keyChain name,
    parent := some parent }

/-- The name of the placeholder among the children of a resource. -/
def placeholderName? (c : Catalog) (id : Nat) : Option String :=
  (c.placeholderChild? id).map fun child => (c.get child).name

/-- Adds an entry below a resource and, after its own checks, the entries below it. -/
def addEntry (c : Catalog) (parent : Nat) (entry : Cursor) : Except BuildError Catalog := do
  let (name, path) ← entryHeader (c.get parent).path (c.placeholderName? parent) entry
  let methods ← liftSchema (entryMethods entry)
  let id := c.rows.size
  let grown := c.push parent (c.resourceBelow parent name path methods)
  match _h : entriesBelow entry with
  | .error e => throw (.schema e)
  | .ok list => list.attach.foldlM (fun grown ⟨child, _⟩ => grown.addEntry id child) grown
termination_by sizeOf entry.value
decreasing_by exact sizeOf_lt_of_mem_entriesBelow ‹_› ‹_›

theorem addEntry_eq (c : Catalog) (parent : Nat) (entry : Cursor) :
    c.addEntry parent entry = (do
      let (name, path) ← entryHeader (c.get parent).path (c.placeholderName? parent) entry
      let methods ← liftSchema (entryMethods entry)
      let list ← liftSchema (entriesBelow entry)
      list.foldlM (fun grown child => grown.addEntry c.rows.size child)
        (c.push parent (c.resourceBelow parent name path methods))) := by
  rw [addEntry]
  refine bind_congr fun header => bind_congr fun methods => ?_
  split
  · rename_i e he
    rw [he]
    rfl
  · rename_i list hl
    rw [hl]
    simp only [List.foldlM_subtype, List.unattach_attach]
    rfl

def build (document : Json) : Except BuildError Catalog := do
  let entries ← liftSchema (Cursor.items { value := document })
  entries.foldlM (fun c entry => c.addEntry root entry) empty

def ofText (text : String) : Except BuildError Catalog := do
  build (← liftSchema (parsePayload text))

/-- A traversal on its way: the stack of the resources still to be visited, the next one in front,
and the resources visited so far. -/
structure Traversal where
  stack : List Nat
  visited : List Nat := []

/-- Puts resources on a stack one after the other. -/
def pushAll (stack ids : List Nat) : List Nat := ids.foldl (fun stack id => id :: stack) stack

namespace Traversal

/-- The traversal of the resources below one. The last child is put on the stack first. -/
def start (c : Catalog) (id : Nat) : Traversal :=
  { stack := pushAll [] (c.get id).children.reverse }

/-- Visits the resource on top of the stack and puts its children there. -/
def visit (c : Catalog) : Traversal → Traversal
  | ⟨[], visited⟩ => ⟨[], visited⟩
  | ⟨id :: stack, visited⟩ => ⟨pushAll stack (c.get id).children.reverse, visited ++ [id]⟩

/-- A number of visits, fewer if the stack is empty before. -/
def run (c : Catalog) : Nat → Traversal → Traversal
  | 0, t => t
  | count + 1, t => run c count (t.visit c)

end Traversal

/-- All resources below a resource in depth-first order. There is no need for more visits than there
are resources. -/
def descendants (c : Catalog) (id : Nat) : List Nat :=
  (Traversal.run c c.rows.size (Traversal.start c id)).visited

end Catalog

/-- A resource with the branches below it. -/
inductive Branch where
  | node (resource : Resource) (children : List Branch)

namespace Branch

/-- The branches of the children of a resource, at most `depth` levels deep. -/
def within (c : Catalog) : Nat → Nat → List Branch
  | 0, _ => []
  | depth + 1, id => (c.get id).children.map fun child => .node (c.get child) (within c depth child)

mutual

def toJson : Branch → Json
  | .node r children => .obj [
    ("name", .str r.name),
    ("path", .str r.path),
    ("indexed", .bool r.isPlaceholder),
    ("key_chain", .arr (r.keyChain.map .str)),
    ("methods", .arr (r.methods.map Method.toJson)),
    ("children", .arr (listToJson children))]

def listToJson : List Branch → List Json
  | [] => []
  | b :: rest => toJson b :: listToJson rest

end

end Branch

def Catalog.branches (c : Catalog) : List Branch := Branch.within c c.rows.size Catalog.root

def Catalog.toJson (c : Catalog) : Json := .arr (Branch.listToJson c.branches)

end ApiAtlas.Resources
