import ApiAtlas.Domain.Letters
import ApiAtlas.Domain.Signs
import ApiAtlas.Unicode.Category
import ApiAtlas.Unicode.Composition

/-!
# Folding

What the text of a domain name is read as: letters are small and plain, characters that do not show
are passed over, and the rest is composed.
-/

namespace ApiAtlas.Domain

open Unicode

/-- The runs of characters that are passed over. -/
def ignoredRanges : List (Nat × Nat) := [
  (0xad, 0xad), (0x34f, 0x34f), (0x115f, 0x1160), (0x17b4, 0x17b5), (0x180b, 0x180f),
  (0x200b, 0x200b), (0x2060, 0x2064), (0x206a, 0x206f), (0x3164, 0x3164), (0xfe00, 0xfe0f),
  (0xfeff, 0xfeff), (0xffa0, 0xffa0), (0x1bca0, 0x1bca3), (0x1d173, 0x1d17a), (0xe0100, 0xe01ef)]

/-- The runs of characters with a shape that no name has. -/
def barredRanges : List (Nat × Nat) := [
  (0x2024, 0x2026), (0x2488, 0x249b), (0x2ff0, 0x2fff), (0x31ef, 0x31ef), (0x33c2, 0x33c2),
  (0x33c7, 0x33c7), (0x33d8, 0x33d8), (0xfe12, 0xfe12), (0xfe19, 0xfe19), (0xfe30, 0xfe30),
  (0xfe52, 0xfe52), (0xfffc, 0xfffd), (0x1f100, 0x1f100)]

/-- The place of a character in a row that takes every one or every other one from the first on. -/
def placeIn? (first step : Nat) (c : Char) : Option Nat :=
  if first ≤ c.toNat && (c.toNat - first) % step == 0 then some ((c.toNat - first) / step) else none

/-- What a character beyond ASCII is read as if it is not itself. -/
def image? (c : Char) : Option (List Char) :=
  let letter := letterRows.findSome? fun (first, step, images) =>
    (placeIn? first step c).bind fun n => images.toList[n]?
  let sign := signRows.findSome? fun (first, step, images) =>
    (placeIn? first step c).bind fun n => images[n]?
  (letter.map ([·])).or (sign.map String.toList)

/-- The characters that join letters or keep them from joining. -/
def isJoiner (c : Char) : Bool := c == '\u200c' || c == '\u200d'

/-- What a character is read as, if a name can have it. -/
def foldChar? (c : Char) : Option (List Char) :=
  if c.toNat < 0x80 then some [c.toLower]
  else if inRanges ignoredRanges c then some []
  else
    match image? c with
    | some image => some image
    | none =>
      if !isJoiner c && (isHidden c || inRanges barredRanges c) then none else some [c]

def folded? (cs : List Char) : Option (List Char) :=
  (cs.mapM foldChar?).map fun images => composed images.flatten

end ApiAtlas.Domain
