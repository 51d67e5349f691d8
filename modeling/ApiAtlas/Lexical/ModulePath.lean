import ApiAtlas.Lexical.Identifier
import ApiAtlas.Text.Blank

/-!
# Module paths

A path of modules is a list of names joined by `::`, with another `::` in front if it is absolute.
White space and comments may stand between its parts. Only some keywords name modules.
-/

namespace ApiAtlas.Lexical

structure ModulePath where
  isAbsolute : Bool
  segments : List String
  deriving DecidableEq, Repr

/-- The keywords that can stand for a module. -/
def moduleKeywords : List String := ["crate", "self", "super", "try"]

/-- White space between the parts of code; the two direction marks count. -/
def isGap (c : Char) : Bool := Text.isBlank c || c == '\u200e' || c == '\u200f'

/-- The text behind a block comment that is open `depth` times; comments nest. -/
def closeComment? : Nat → List Char → Option (List Char)
  | depth, '/' :: '*' :: cs => closeComment? (depth + 1) cs
  | depth, '*' :: '/' :: cs => if depth ≤ 1 then some cs else closeComment? (depth - 1) cs
  | depth, _ :: cs => closeComment? depth cs
  | _, [] => none

/-- The text behind a comment at the front. Comments that document what follows are not among
them. -/
def skipComment? : List Char → Option (List Char)
  | '/' :: '/' :: cs =>
    match cs with
    | '/' :: '/' :: rest => some (rest.dropWhile (· != '\n'))
    | '/' :: _ | '!' :: _ => none
    | rest => some (rest.dropWhile (· != '\n'))
  | '/' :: '*' :: cs =>
    match cs with
    | '*' :: '/' :: rest => some rest
    | '*' :: '*' :: _ => closeComment? 1 cs
    | '*' :: _ | '!' :: _ => none
    | rest => closeComment? 1 rest
  | _ => none

/-- Drops white space and comments, the latter at most `fuel` times. -/
def skipGaps : Nat → List Char → List Char
  | 0, cs => cs.dropWhile isGap
  | fuel + 1, cs =>
    let cs := cs.dropWhile isGap
    match skipComment? cs with
    | some rest => skipGaps fuel rest
    | none => cs

def skipGap (cs : List Char) : List Char := skipGaps cs.length cs

def takeSegment? : List Char → Option (String × List Char)
  | 'r' :: '#' :: cs =>
    (takeWord? cs).bind fun (word, rest) =>
      let name := String.ofList word
      if neverRaw.contains name then none else some ("r#" ++ name, rest)
  | cs =>
    (takeWord? cs).bind fun (word, rest) =>
      let name := String.ofList word
      if isKeyword name && !moduleKeywords.contains name then none else some (name, rest)

/-- At most `fuel` segments up to the end of the text. -/
def takeSegments? : Nat → List Char → Option (List String)
  | 0, _ => none
  | fuel + 1, cs => do
    let (name, rest) ← takeSegment? (skipGap cs)
    match skipGap rest with
    | [] => some [name]
    | ':' :: ':' :: rest => (takeSegments? fuel rest).map (name :: ·)
    | _ => none

/-- Reads a path of modules. A byte order mark in front is dropped. -/
def ModulePath.ofText? (text : String) : Option ModulePath :=
  let cs := match text.toList with
    | '\ufeff' :: cs => cs
    | cs => cs
  match skipGap cs with
  | ':' :: ':' :: rest => (takeSegments? (rest.length + 1) rest).map (⟨true, ·⟩)
  | rest => (takeSegments? (rest.length + 1) rest).map (⟨false, ·⟩)

end ApiAtlas.Lexical
