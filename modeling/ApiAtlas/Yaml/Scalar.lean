import ApiAtlas.Text.Hex
import ApiAtlas.Yaml.Spot

/-!
# Scalars

The texts of YAML in their four forms: plain, in quotes, and as blocks that keep or fold their
lines. A single break between words is folded to a space, except in a block that keeps its lines.
The margin of a scalar is the column where its further lines may begin at the earliest.
-/

namespace ApiAtlas.Yaml

/-! ## Gaps -/

/-- Blanks, and the breaks behind them with the blanks of the lines that those begin. -/
structure Gap where
  blanks : List Char := []
  breaks : List (List Char) := []

/-- What is read for breaks: a line feed gives way to those behind it or else to a space. -/
def foldBreaks : List (List Char) → List Char
  | [] => []
  | [['\n']] => [' ']
  | ['\n'] :: more => more.flatten
  | breaks => breaks.flatten

/-- What is read for a gap between words. -/
def Gap.text (g : Gap) : List Char := if g.breaks.isEmpty then g.blanks else foldBreaks g.breaks

/-- Takes breaks and the blanks of the lines that they begin, where no tab stands in the margin. -/
def takeBreaks? (margin : Nat) : Nat → Spot → Option (List (List Char) × Spot)
  | 0, _ => none
  | fuel + 1, s =>
    if s.sees isBreak then do
      let (first, s) := s.takeBreak
      let (blanks, s) := s.takeWhile isBlank
      if (blanks.take margin).contains '\t' then none
      else
        let (more, s) ← takeBreaks? margin fuel s
        return (first :: more, s)
    else some ([], s)

def takeGap? (margin : Nat) (s : Spot) : Option (Gap × Spot) := do
  let (blanks, s) := s.takeWhile isBlank
  let (breaks, s) ← takeBreaks? margin (s.rest.length + 1) s
  return (⟨blanks, breaks⟩, s)

/-! ## Plain scalars -/

/-- The marks that structure a collection in brackets. -/
def isFlowMark (c : Char) : Bool := [',', '[', ']', '{', '}'].contains c

/-- The length of the word at the front of a text. Inside brackets it ends at a mark, which must
not follow a colon. -/
def wordLength? (inFlow : Bool) : List Char → Option Nat
  | [] => some 0
  | c :: cs =>
    if inFlow && c == ':' && cs.head?.any (fun d => d == '?' || isFlowMark d) then none
    else if isGap c || (inFlow && isFlowMark c) || (c == ':' && cs.head?.all isGap) then some 0
    else (wordLength? inFlow cs).map (· + 1)

/-- Takes the words of a plain scalar that stand behind a gap; says whether the last gap taken,
which may stand behind the last word, has a break. -/
def takeWords? (inFlow : Bool) (margin : Nat) :
    Nat → Gap → Spot → Option (List Char × Bool × Spot)
  | 0, _, _ => none
  | fuel + 1, gap, s =>
    if s.atDocumentMark || s.sees (· == '#') then some ([], !gap.breaks.isEmpty, s)
    else do
      let length ← wordLength? inFlow s.rest
      if length = 0 then return ([], !gap.breaks.isEmpty, s)
      let word := gap.text ++ s.rest.take length
      let s := s.steps length
      if !s.sees isGap then return (word, false, s)
      let (gap, s) ← takeGap? margin s
      if !inFlow && s.column < margin then return (word, !gap.breaks.isEmpty, s)
      let (words, endsLine, s) ← takeWords? inFlow margin fuel gap s
      return (word ++ words, endsLine, s)

/-- Takes a plain scalar; says whether it has a break behind it. -/
def takePlain? (inFlow : Bool) (margin : Nat) (s : Spot) : Option (String × Bool × Spot) :=
  (takeWords? inFlow margin (s.rest.length + 1) {} s).map fun (words, endsLine, s) =>
    (String.ofList words, endsLine, s)

/-! ## Scalars in quotes -/

/-- The character of an escape, and the length of the escape behind its backslash. -/
def escape? : List Char → Option (Char × Nat)
  | [] => none
  | c :: cs =>
    let code (length : Nat) : Option (Char × Nat) := do
      let code ← Text.hexNumber? (cs.take length)
      if length ≤ cs.length ∧ code.isValidChar then some (Char.ofNat code, length + 1) else none
    match c with
    | 'x' => code 2
    | 'u' => code 4
    | 'U' => code 8
    | _ => ([('0', '\x00'), ('a', '\x07'), ('b', '\x08'), ('t', '\t'), ('\t', '\t'), ('n', '\n'),
        ('v', '\x0b'), ('f', '\x0c'), ('r', '\r'), ('e', '\x1b'), (' ', ' '), ('"', '"'),
        ('/', '/'), ('\\', '\\'), ('N', '\u0085'), ('_', '\u00a0'), ('L', '\u2028'),
        ('P', '\u2029')].lookup c).map (·, 1)

/-- Takes the rest of a scalar behind its opening quote. A single quote in single quotes is written
twice; only double quotes have escapes, one of which removes a break. -/
def quotedTail? (quote : Char) : Nat → Spot → Option (List Char × Spot)
  | 0, _ => none
  | fuel + 1, s =>
    let onward (text : List Char) (s : Spot) : Option (List Char × Spot) :=
      (quotedTail? quote fuel s).map fun (tail, s) => (text ++ tail, s)
    match s.rest with
    | [] => none
    | c :: cs =>
      if s.atDocumentMark then none
      else if c == quote then
        if c == '\'' && cs.head? == some c then onward [c] (s.steps 2) else some ([], s.steps 1)
      else if isGap c then (takeGap? 0 s).bind fun (gap, s) => onward gap.text s
      else if c == '\\' && quote == '"' then
        if cs.head?.any isBreak then
          (takeGap? 0 (s.steps 1).takeBreak.2).bind fun (gap, s) => onward gap.breaks.flatten s
        else (escape? cs).bind fun (c, length) => onward [c] (s.steps (length + 1))
      else onward [c] (s.steps 1)

def takeQuoted? (quote : Char) (s : Spot) : Option (String × Spot) :=
  (quotedTail? quote (s.rest.length + 1) (s.steps 1)).map fun (text, s) => (String.ofList text, s)

/-! ## Block scalars -/

/-- What becomes of the breaks at the end of a block scalar. -/
inductive Chomping where
  | strip
  | clip
  | keep
  deriving DecidableEq, Repr

/-- Takes the marks of a header: a sign and a digit other than zero, in either order. -/
def takeHeader? (s : Spot) : Option (Chomping × Nat × Spot) :=
  let sign (s : Spot) : Chomping × Spot :=
    match s.rest with
    | '+' :: _ => (.keep, s.steps 1)
    | '-' :: _ => (.strip, s.steps 1)
    | _ => (.clip, s)
  let digit (s : Spot) : Nat × Spot :=
    match s.rest with
    | c :: _ => if c.isDigit then (c.toNat - '0'.toNat, s.steps 1) else (0, s)
    | [] => (0, s)
  let (chomping, behindSign) := sign s
  if behindSign.sees (· == '0') then none
  else
    let (indent, s) := digit behindSign
    if chomping = .clip then
      let (chomping, s) := sign s
      some (chomping, indent, s)
    else some (chomping, indent, s)

/-- Takes the indentation of a line and the empty lines in front of it, with the largest column that
is reached. The indentation goes up to a column, or on to the end if that is zero. -/
def takeEmptyLines? (indent : Nat) : Nat → Spot → Option (List (List Char) × Nat × Spot)
  | 0, _ => none
  | fuel + 1, s =>
    let spaces := (s.rest.takeWhile (· == ' ')).length
    let s := s.steps (if indent = 0 then spaces else min spaces (indent - s.column))
    if s.sees (· == '\t') && (indent == 0 || s.column < indent) then none
    else if s.sees isBreak then do
      let (first, next) := s.takeBreak
      let (more, widest, next) ← takeEmptyLines? indent fuel next
      return (first :: more, max s.column widest, next)
    else some ([], s.column, s)

/-- What is read for the break of a line and the empty lines behind it. A break beside a line that
begins with a blank is not folded. -/
def joint (folds : Bool) (breaks : List (List Char)) (beside : Bool) : List Char :=
  if folds && !beside then foldBreaks breaks else breaks.flatten

/-- Takes the lines of a block scalar behind some breaks; gives the text up to the end of the last
line and the breaks behind it. -/
def takeLines? (folds : Bool) (indent : Nat) :
    Nat → List (List Char) → Bool → Spot → Option (List Char × List (List Char) × Spot)
  | 0, _, _, _ => none
  | fuel + 1, breaks, afterBlank, s =>
    if s.column = indent ∧ s.rest ≠ [] then do
      let startsBlank := s.sees isBlank
      let (line, s) := s.takeWhile (!isBreak ·)
      let (lineBreak, s) := s.takeBreak
      let (empties, _, s) ← takeEmptyLines? indent (s.rest.length + 1) s
      let (text, ends, s) ← takeLines? folds indent fuel (lineBreak :: empties) startsBlank s
      return (joint folds breaks (afterBlank || startsBlank) ++ line ++ text, ends, s)
    else some ([], breaks, s)

def takeBlock? (folds : Bool) (margin : Nat) (s : Spot) : Option (String × Spot) := do
  let (chomping, increment, s) ← takeHeader? (s.steps 1)
  let s ← s.nextLine?
  let indent := if increment = 0 then 0 else margin - 1 + increment
  let (empties, widest, s) ← takeEmptyLines? indent (s.rest.length + 1) s
  let indent := if indent = 0 then max widest (max margin 1) else indent
  let (text, ends, s) ← takeLines? folds indent (s.rest.length + 1) ([] :: empties) false s
  let last := match chomping with
    | .strip => []
    | .clip => ends.headD []
    | .keep => ends.flatten
  return (String.ofList (text ++ last), s)

end ApiAtlas.Yaml
