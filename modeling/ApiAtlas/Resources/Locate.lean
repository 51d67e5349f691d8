import ApiAtlas.Resources.Catalog

/-!
# Finding resources

A path is walked segment by segment. A child whose name is the segment comes first; otherwise any
segment leads to the placeholder child. Empty segments are passed over.
-/

namespace ApiAtlas.Resources

/-- The segments of a path that are not empty. -/
def segmentsOf (path : String) : List String :=
  ((path.toList.splitOn '/').filter (!·.isEmpty)).map String.ofList

namespace Catalog

def childFor? (c : Catalog) (id : Nat) (segment : String) : Option Nat :=
  (c.literalChild? id segment).or (c.placeholderChild? id)

def locate? (c : Catalog) (path : String) : Option Nat :=
  (segmentsOf path).foldlM c.childFor? root

/-- The placeholder names met on the way along segments, with the segments that stand for them. -/
def bindFrom? (c : Catalog) (id : Nat) : List String → Option (List (String × String))
  | [] => some []
  | segment :: rest =>
    match c.literalChild? id segment with
    | some child => c.bindFrom? child rest
    | none => do
      let child ← c.placeholderChild? id
      return ((c.get child).indexName, segment) :: (← c.bindFrom? child rest)

/-- The values that a path gives to the keys of its resource. -/
def bindKeys? (c : Catalog) (path : String) : Option (List (String × String)) :=
  c.bindFrom? root (segmentsOf path)

end Catalog

end ApiAtlas.Resources
