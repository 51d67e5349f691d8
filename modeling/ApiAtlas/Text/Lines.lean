/-!
# Lines and pieces of a text

A line ends at a line feed, which takes one carriage return before it along; the text after the
last line feed is a line only if it is not empty. A carriage return anywhere else belongs to its
line.
-/

namespace ApiAtlas.Text

def dropReturn (line : List Char) : List Char :=
  if line.getLast? = some '\r' then line.dropLast else line

def linesOf (cs : List Char) : List (List Char) :=
  let pieces := cs.splitOn '\n'
  let last := pieces.getLastD []
  pieces.dropLast.map dropReturn ++ if last.isEmpty then [] else [last]

def lines (s : String) : List String := (linesOf s.toList).map String.ofList

/-- The text without the characters that satisfy a test. -/
def without (p : Char → Bool) (s : String) : String :=
  String.ofList (s.toList.filter fun c => !p c)

/-- Pads a text with spaces on the right up to a number of characters. -/
def padRight (width : Nat) (s : String) : String :=
  s ++ String.ofList (List.replicate (width - s.length) ' ')

end ApiAtlas.Text
