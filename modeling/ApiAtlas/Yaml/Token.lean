import ApiAtlas.Yaml.Scalar

/-!
# Tokens

What a text of YAML is made of. Collections that are shown by indentation have tokens where they
begin and end. Anchors carry numbers instead of names.
-/

namespace ApiAtlas.Yaml

inductive Token where
  /-- The version that a document is written for. -/
  | version (major minor : Nat)
  /-- What a handle stands for in the tags of a document. -/
  | handle (name start : String)
  | documentStart
  | documentEnd
  | blockSequenceStart
  | blockMappingStart
  | blockEnd
  | flowSequenceStart
  | flowSequenceEnd
  | flowMappingStart
  | flowMappingEnd
  | blockEntry
  | flowEntry
  | key
  | value
  | anchor (number : Nat)
  | alias (number : Nat)
  | tag (handle ending : String)
  | scalar (isPlain : Bool) (text : String)
  deriving DecidableEq, Repr

/-! ## Tags -/

/-- The characters of tags; the marks of sequences and entries only where brackets enclose a tag. -/
def isTagChar (isEnclosed : Bool) (c : Char) : Bool :=
  isWordChar c || ";/?:@&=+$.%!~*'()".toList.contains c || (isEnclosed && ",[]".toList.contains c)

/-- The number of bytes that a character takes by its first byte. -/
def byteCount? (first : Nat) : Option Nat :=
  if first < 0x80 then some 1
  else if 0xc0 ≤ first ∧ first < 0xe0 then some 2
  else if 0xe0 ≤ first ∧ first < 0xf0 then some 3
  else if 0xf0 ≤ first ∧ first < 0xf8 then some 4
  else none

/-- Decodes the escapes of a tag byte by byte, where `open` more bytes belong to a character that
has begun. -/
def tagBytes? : Nat → List Char → Option (List Char)
  | 0, [] => some []
  | _ + 1, [] => none
  | more, '%' :: a :: b :: cs => do
    let byte ← Text.hexNumber? [a, b]
    let more ← match more with
      | 0 => (byteCount? byte).map (· - 1)
      | n + 1 => if 0x80 ≤ byte ∧ byte < 0xc0 then some n else none
    return Char.ofNat byte :: (← tagBytes? more cs)
  | 0, c :: cs => if c == '%' then none else (tagBytes? 0 cs).map (c :: ·)
  | _ + 1, _ :: _ => none

/-- Takes a run of characters of tags. A byte of zero ends what is read of it. -/
def takeTagText? (isEnclosed : Bool) (s : Spot) : Option (String × Spot) := do
  let (run, s) := s.takeWhile (isTagChar isEnclosed)
  let bytes ← tagBytes? 0 run
  return (String.ofList (bytes.takeWhile (· != '\x00')), s)

/-- Takes a run of characters of tags that is not empty. -/
def takeSomeTagText? (isEnclosed : Bool) (s : Spot) : Option (String × Spot) :=
  if s.sees (isTagChar isEnclosed) then takeTagText? isEnclosed s else none

/-- Takes a mark and what makes a name of it: characters of names and, if it is a handle, another
mark. -/
def takeHandle (s : Spot) : List Char × Bool × Spot :=
  let (name, next) := (s.steps 1).takeWhile isWordChar
  if next.sees (· == '!') then (name ++ ['!'], true, next.steps 1) else (name, false, next)

/-- Takes a tag: one in brackets, one with a handle, or one that begins with a mark. -/
def takeTag? (inFlow : Bool) (s : Spot) : Option (Token × Spot) := do
  let (tag, s) ←
    if (s.steps 1).sees (· == '<') then do
      let (text, s) ← takeSomeTagText? true (s.steps 2)
      if s.sees (· == '>') then some (Token.tag "" text, s.steps 1) else none
    else do
      let (name, isHandle, s) := takeHandle s
      if isHandle then
        let (text, s) ← takeSomeTagText? false s
        some (Token.tag (String.ofList ('!' :: name)) text, s)
      else
        let (text, s) ← takeTagText? false s
        let ending := String.ofList name ++ text
        some (if ending.isEmpty then Token.tag "" "!" else Token.tag "!" ending, s)
  if s.endsOr isGap 0 || (inFlow && s.sees (· == ',')) then some (tag, s) else none

/-! ## Directives -/

/-- Takes a number of one to nine digits. -/
def takeNumber? (s : Spot) : Option (Nat × Spot) :=
  let (digits, s) := s.takeWhile Char.isDigit
  if digits.isEmpty || 9 < digits.length then none
  else some (digits.foldl (fun n c => 10 * n + (c.toNat - '0'.toNat)) 0, s)

def takeVersion? (s : Spot) : Option (Token × Spot) := do
  let (major, s) ← takeNumber? s
  if !s.sees (· == '.') then none
  let (minor, s) ← takeNumber? (s.steps 1)
  return (.version major minor, s)

/-- Takes a handle and what it stands for. -/
def takeHandleMeaning? (s : Spot) : Option (Token × Spot) := do
  if !s.sees (· == '!') then none
  let (name, isHandle, s) := takeHandle s
  if !(isHandle || name.isEmpty) || !s.sees isBlank then none
  let (start, s) ← takeSomeTagText? true (s.skipWhile isBlank)
  if s.endsOr isGap 0 then some (.handle (String.ofList ('!' :: name)) start, s) else none

def takeDirective? (s : Spot) : Option (Token × Spot) := do
  let (name, s) := (s.steps 1).takeWhile isWordChar
  if !s.endsOr isGap 0 then none
  let s := s.skipWhile isBlank
  let (token, s) ← match String.ofList name with
    | "YAML" => takeVersion? s
    | "TAG" => takeHandleMeaning? s
    | _ => none
  return (token, ← s.nextLine?)

end ApiAtlas.Yaml
