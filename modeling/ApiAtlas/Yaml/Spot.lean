/-!
# Places in a text of YAML

A place is what lies behind it together with where it is: how many bytes and lines are in front of
it, and how many characters of its own line. A line ends at any of five breaks, where a carriage
return takes the line feed behind it along.
-/

namespace ApiAtlas.Yaml

def isAllowed (c : Char) : Bool :=
  c == '\t' || c == '\n' || c == '\r' || (' ' ≤ c && c ≤ '~') || c == '\u0085' ||
    ('\u00a0' ≤ c && c ≤ '\ufffd') || 0x10000 ≤ c.toNat

def isBlank (c : Char) : Bool := c == ' ' || c == '\t'

def isBreak (c : Char) : Bool :=
  c == '\n' || c == '\r' || c == '\u0085' || c == '\u2028' || c == '\u2029'

/-- What can stand between words. -/
def isGap (c : Char) : Bool := isBlank c || isBreak c

def isWordChar (c : Char) : Bool := c.isAlphanum || c == '_' || c == '-'

structure Spot where
  rest : List Char
  offset : Nat := 0
  line : Nat := 0
  column : Nat := 0
  deriving DecidableEq, Repr

namespace Spot

/-- Whether the next character is there and passes a test. -/
def sees (p : Char → Bool) (s : Spot) : Bool := s.rest.head?.any p

/-- Whether the text ends a number of characters ahead or has one there that passes a test. -/
def endsOr (p : Char → Bool) (ahead : Nat) (s : Spot) : Bool := (s.rest[ahead]?).all p

def byteCount (cs : List Char) : Nat := (String.ofList cs).utf8ByteSize

def steps (n : Nat) (s : Spot) : Spot :=
  let moved := s.rest.take n
  { s with
    rest := s.rest.drop n
    offset := s.offset + byteCount moved
    column := s.column + moved.length }

def takeWhile (p : Char → Bool) (s : Spot) : List Char × Spot :=
  let run := s.rest.takeWhile p
  (run, s.steps run.length)

def skipWhile (p : Char → Bool) (s : Spot) : Spot := (s.takeWhile p).2

/-- Takes a break. Two kinds keep their character; the others become line feeds. -/
def takeBreak (s : Spot) : List Char × Spot :=
  let next (length : Nat) : Spot :=
    ⟨s.rest.drop length, s.offset + byteCount (s.rest.take length), s.line + 1, 0⟩
  match s.rest with
  | '\r' :: '\n' :: _ => (['\n'], next 2)
  | c :: _ =>
    if c == '\u2028' || c == '\u2029' then ([c], next 1)
    else if isBreak c then (['\n'], next 1)
    else ([], s)
  | [] => ([], s)

def skipComment (s : Spot) : Spot := if s.sees (· == '#') then s.skipWhile (!isBreak ·) else s

/-- Moves to the next line over blanks and a comment; nothing else may be left of the line. -/
def nextLine? (s : Spot) : Option Spot :=
  let s := (s.skipWhile isBlank).skipComment
  if s.endsOr isBreak 0 then some s.takeBreak.2 else none

/-- Whether a line begins here with three equal marks and a gap. -/
def startsWithMarks (mark : Char) (s : Spot) : Bool :=
  s.column == 0 && s.rest.take 3 == [mark, mark, mark] && s.endsOr isGap 3

/-- Whether a line begins here that starts or ends a document. -/
def atDocumentMark (s : Spot) : Bool := s.startsWithMarks '-' || s.startsWithMarks '.'

end Spot

end ApiAtlas.Yaml
