import ApiAtlas.Resources.Locate

/-!
# Listings

A resource is listed with flags: `D` if it has children, always `r`, and `c` if it can be posted to.
The answer of a resource lists its concrete children where it names them by the link key.
-/

namespace ApiAtlas.Explorer

open Descriptor Resources

def flags (r : Resource) : String :=
  (if r.hasChildren then "D" else "-") ++ "r" ++ (if r.hasMethod .post then "c" else "-")

def entryLine (r : Resource) (name : String) : String := flags r ++ "        " ++ name

def listChildren (c : Catalog) (id : Nat) : List String :=
  (c.children id).map fun (_, child) => entryLine child child.name

/-- The field that names the children in the answer of a resource. -/
def childKey? (r : Resource) : Option String :=
  ((r.method? .get).map (·.returns.linkKey)).filter (· ≠ "")

/-- The name of a child in an item of an answer: a string or a number under the key. -/
def childName? (key : String) (item : Json) : Option String :=
  match item.member? key with
  | some (.str s) => some s
  | some v@(.int _) | some v@(.real _) => some v.leafText
  | _ => none

/-- The children that an answer names, and the children that are no placeholder; or the children of
the catalog, if the answer names none. -/
def listValues (c : Catalog) (id : Nat) (answer : Json) : List String :=
  match childKey? (c.get id), c.placeholderChild? id, answer.items? with
  | some key, some placeholder, some items =>
    (items.filterMap (childName? key)).map (entryLine (c.get placeholder)) ++
      ((c.children id).filter fun (_, child) => !child.isPlaceholder).map fun (_, child) =>
        entryLine child child.name
  | _, _, _ => listChildren c id

end ApiAtlas.Explorer
