import ApiAtlas.Domain.Encoded
import ApiAtlas.Domain.Folding
import ApiAtlas.Text.Blank
import ApiAtlas.Unicode.Direction
import ApiAtlas.Unicode.Joining

/-!
# Domain names

A name is labels between points. What is asked of a label keeps names that look alike from being
different: it does not begin with a mark, letters are joined only where that shows, and in a name
with letters from right to left each label goes one way.
-/

namespace ApiAtlas.Domain

open Unicode

/-! ## Joiners -/

/-- Whether the first character that letters do not join across passes a test. -/
def meets (p : Char → Bool) (cs : List Char) : Bool := (cs.dropWhile isJoinedAcross).head?.any p

/-- Whether a joiner shows between the characters in front of it, the last first, and those behind:
next to a lost vowel, or between letters that it keeps from joining. -/
def joinerShows (before : List Char) (joiner : Char) (after : List Char) : Bool :=
  before.head?.any isVirama ||
    (joiner == '\u200c' && meets joinsRear before && meets joinsFront after)

/-- Whether all joiners behind some characters, which come last first, show. -/
def joinersShow (before : List Char) : List Char → Bool
  | [] => true
  | c :: after =>
    (!isJoiner c || joinerShows before c after) && joinersShow (c :: before) after

/-! ## Directions -/

def pointsRight (c : Char) : Bool := direction c == .right || direction c == .arabicDigit

/-- Whether a label goes one way: it begins with a letter, and numbers and letters at its end go the
way of that letter. -/
def goesOneWay : List Char → Bool
  | [] => true
  | c :: cs =>
    let directions := (Text.dropEndWhile (· == .mark) (cs.map direction))
    let endsIn (allowed : List Direction) : Bool := directions.getLast?.all (allowed.contains ·)
    match direction c with
    | .left =>
      endsIn [.left, .europeanDigit] &&
        directions.all fun d => d != .right && d != .arabicDigit
    | .right =>
      endsIn [.right, .arabicDigit, .europeanDigit] && !directions.contains .left &&
        !(directions.contains .arabicDigit && directions.contains .europeanDigit)
    | _ => false

/-! ## Labels -/

/-- What an encoded label begins with. -/
def encodedMark : List Char := "xn--".toList

/-- The most characters that an encoded label has behind its mark. -/
def encodedLimit : Nat := 2000

/-- The most characters of a label beyond ASCII. -/
def labelLimit : Nat := 1000

/-- Reads a label that is encoded. It stands for a text that is read as itself. -/
def label? (cs : List Char) : Option (List Char) :=
  if encodedMark.isPrefixOf cs then do
    let code := cs.drop encodedMark.length
    if encodedLimit < code.length || code.getLast?.all (· == '-') then none
    let label ← Encoded.decode? code
    if folded? label = some label then some label else none
  else some cs

def isLabel (cs : List Char) : Bool :=
  !cs.head?.any isMark && joinersShow [] cs &&
    (cs.all (·.toNat < 0x80) || cs.length ≤ labelLimit)

/-! ## Names -/

/-- The characters that no name has: controls, the space and the marks that end a host. -/
def isForbidden (c : Char) : Bool :=
  c.toNat ≤ 0x20 || c == '\x7f' || "#/<>?@[\\]^|:%".toList.contains c

def labels? (cs : List Char) : Option (List (List Char)) := do
  let text ← folded? cs
  if text.any isForbidden then none
  let labels ← (text.splitOn '.').mapM label?
  let mixes := labels.any (·.any pointsRight)
  if labels.all isLabel && (!mixes || labels.all goesOneWay) then some labels else none

end ApiAtlas.Domain
