/-!
# Ranges of characters

A set of characters is given by the code points of its runs, each with its first and last.
-/

namespace ApiAtlas.Unicode

def inRanges (ranges : List (Nat × Nat)) (c : Char) : Bool :=
  ranges.any fun (first, last) => first ≤ c.toNat && c.toNat ≤ last

end ApiAtlas.Unicode
