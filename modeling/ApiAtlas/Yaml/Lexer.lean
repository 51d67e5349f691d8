import ApiAtlas.Yaml.Token

/-!
# Finding tokens

The tokens of a text of YAML. A block collection begins where something stands further to the right
than the blocks around it, and ends where something stands further to the left. Whether something is
a key shows only at the colon behind it, so the places where keys may have begun are remembered,
one for each pair of brackets; the token of a key is put there when its colon is met, which must be
on the same line and not far behind.
-/

namespace ApiAtlas.Yaml

/-- A place where a key may have begun. -/
structure KeyStart where
  spot : Spot
  /-- The number of tokens in front of it. -/
  position : Nat
  /-- Whether nothing but a key can stand there. -/
  isRequired : Bool

structure Lexer where
  spot : Spot
  /-- What was found, the last first. -/
  tokens : List Token := []
  /-- The columns of the blocks that are open, the innermost first. -/
  columns : List Nat := []
  /-- Where a key may have begun, inside each open pair of brackets and around them all, the
  innermost first. -/
  starts : List (Option KeyStart) := [none]
  /-- Whether a key can begin here. -/
  allowsKey : Bool := true
  /-- The numbers of the anchors. -/
  anchors : List (String × Nat) := []

namespace Lexer

def inFlow (l : Lexer) : Bool := 1 < l.starts.length

/-- The column where the lines of a scalar may begin at the earliest. -/
def margin (l : Lexer) : Nat :=
  match l.columns with
  | [] => 0
  | column :: _ => column + 1

def emit (l : Lexer) (t : Token) (s : Spot) : Lexer := { l with tokens := t :: l.tokens, spot := s }

/-- Puts a token behind the first few. -/
def insert (l : Lexer) (position : Nat) (t : Token) : Lexer :=
  let later := l.tokens.length - position
  { l with tokens := l.tokens.take later ++ t :: l.tokens.drop later }

/-! ## Blocks -/

/-- Opens a block at a column that is to the right of the open ones. -/
def openBlock (l : Lexer) (column position : Nat) (t : Token) : Lexer :=
  if l.inFlow || column < l.margin then l
  else { l.insert position t with columns := column :: l.columns }

/-- Closes the blocks from a column on. -/
def closeBlocks (l : Lexer) (column : Nat) : Lexer :=
  if l.inFlow then l
  else
    let closed := l.columns.takeWhile (column ≤ ·)
    { l with
      tokens := List.replicate closed.length .blockEnd ++ l.tokens
      columns := l.columns.drop closed.length }

/-! ## Keys -/

/-- Gives up the innermost place where a key may have begun, unless one had to. -/
def dropStart? (l : Lexer) : Option Lexer :=
  match l.starts with
  | some start :: rest => if start.isRequired then none else some { l with starts := none :: rest }
  | _ => some l

/-- Remembers that a key may begin here. -/
def saveStart? (l : Lexer) : Option Lexer :=
  if !l.allowsKey then some l
  else
    let isRequired := !l.inFlow && l.columns.head? == some l.spot.column
    let start : KeyStart := ⟨l.spot, l.tokens.length, isRequired⟩
    l.dropStart?.map fun l => { l with starts := some start :: l.starts.drop 1 }

/-- Whether a key that began at a place cannot end here. -/
def isStale (s : Spot) (start : KeyStart) : Bool :=
  start.spot.line < s.line || start.spot.offset + 1024 < s.offset

/-- Gives up the places that lie too far back, unless a key had to begin at one of them. -/
def dropStale? (l : Lexer) : Option Lexer :=
  let isOver (start : Option KeyStart) : Bool := start.any (isStale l.spot)
  if l.starts.any fun start => isOver start && start.any (·.isRequired) then none
  else some { l with starts := l.starts.map fun start => if isOver start then none else start }

/-! ## Single tokens -/

/-- Moves over blanks, comments and breaks. A tab is a blank only where no key can begin, and a line
may begin with a byte order mark. -/
def skipGaps : Nat → Lexer → Lexer
  | 0, l => l
  | fuel + 1, l =>
    let s := if l.spot.column == 0 && l.spot.sees (· == '\ufeff') then l.spot.steps 1 else l.spot
    let s := s.skipWhile fun c => c == ' ' || (c == '\t' && (l.inFlow || !l.allowsKey))
    let s := s.skipComment
    if s.sees isBreak then
      skipGaps fuel { l with spot := s.takeBreak.2, allowsKey := l.allowsKey || !l.inFlow }
    else { l with spot := s }

/-- A line at column zero that belongs to no block. -/
def leaveBlocks? (l : Lexer) : Option Lexer :=
  (l.closeBlocks 0).dropStart?.map fun l => { l with allowsKey := false }

def directive? (l : Lexer) : Option Lexer := do
  let l ← l.leaveBlocks?
  let (t, s) ← takeDirective? l.spot
  return l.emit t s

def documentMark? (l : Lexer) (t : Token) : Option Lexer :=
  l.leaveBlocks?.map fun l => l.emit t (l.spot.steps 3)

def openBracket? (l : Lexer) (t : Token) : Option Lexer :=
  l.saveStart?.map fun l =>
    { l.emit t (l.spot.steps 1) with starts := none :: l.starts, allowsKey := true }

def closeBracket? (l : Lexer) (t : Token) : Option Lexer :=
  l.dropStart?.map fun l =>
    { l.emit t (l.spot.steps 1) with
      starts := if l.inFlow then l.starts.drop 1 else l.starts
      allowsKey := false }

def flowEntry? (l : Lexer) : Option Lexer :=
  l.dropStart?.map fun l => { l.emit .flowEntry (l.spot.steps 1) with allowsKey := true }

/-- A mark that may open a block around it; it stands where a key can begin. -/
def blockMark? (l : Lexer) (block t : Token) (allowsKey : Bool) : Option Lexer :=
  if !l.inFlow && !l.allowsKey then none
  else
    (l.openBlock l.spot.column l.tokens.length block).dropStart?.map fun l =>
      { l.emit t (l.spot.steps 1) with allowsKey := allowsKey }

/-- The colon behind a key. -/
def value? (l : Lexer) : Option Lexer :=
  match l.starts with
  | some start :: rest =>
    let keyed := l.insert start.position .key
    let opened := keyed.openBlock start.spot.column start.position .blockMappingStart
    some { opened.emit .value (l.spot.steps 1) with starts := none :: rest, allowsKey := false }
  | _ => l.blockMark? .blockMappingStart .value (!l.inFlow)

/-- Something that a key can begin with. -/
def nodePart? (l : Lexer) (take? : Spot → Option (Token × Spot)) : Option Lexer := do
  let l ← l.saveStart?
  let (t, s) ← take? l.spot
  return { l.emit t s with allowsKey := false }

def takeName? (s : Spot) : Option (String × Spot) :=
  let (name, s) := (s.steps 1).takeWhile isWordChar
  let isEnd (c : Char) : Bool := isGap c || "?:,]\x7d%@\x60".toList.contains c
  if name.isEmpty || !s.endsOr isEnd 0 then none else some (String.ofList name, s)

/-- An anchor; its number is the number of different names in front of it. -/
def anchor? (l : Lexer) : Option Lexer := do
  let (name, s) ← takeName? l.spot
  let number := l.anchors.length
  let l ← l.nodePart? fun _ => some (.anchor number, s)
  return { l with anchors := (name, number) :: l.anchors.filter (·.1 != name) }

def alias? (l : Lexer) : Option Lexer :=
  l.nodePart? fun s => do
    let (name, s) ← takeName? s
    return (.alias (← l.anchors.lookup name), s)

def quoted? (l : Lexer) (quote : Char) : Option Lexer :=
  l.nodePart? fun s => (takeQuoted? quote s).map fun (text, s) => (.scalar false text, s)

def block? (l : Lexer) (folds : Bool) : Option Lexer := do
  let l ← l.dropStart?
  let (text, s) ← takeBlock? folds l.margin l.spot
  return { l.emit (.scalar false text) s with allowsKey := true }

/-- A plain scalar; a key can begin behind it if it has a break behind it. -/
def plain? (l : Lexer) : Option Lexer := do
  let l ← l.saveStart?
  let (text, endsLine, s) ← takePlain? l.inFlow l.margin l.spot
  return { l.emit (.scalar true text) s with allowsKey := endsLine }

/-- Whether a character that is no mark of its own can begin a plain scalar. -/
def startsPlain (c : Char) : Bool := !(isGap c || ",[]\x7b\x7d#&*!|>'\"%@\x60".toList.contains c)

/-- Takes the token that begins with a character. -/
def token? (l : Lexer) (c : Char) : Option Lexer :=
  let standsAlone := l.spot.endsOr isGap 1
  if l.spot.column == 0 && c == '%' then l.directive?
  else if l.spot.startsWithMarks '-' then l.documentMark? .documentStart
  else if l.spot.startsWithMarks '.' then l.documentMark? .documentEnd
  else match c with
    | '[' => l.openBracket? .flowSequenceStart
    | '{' => l.openBracket? .flowMappingStart
    | ']' => l.closeBracket? .flowSequenceEnd
    | '}' => l.closeBracket? .flowMappingEnd
    | ',' => l.flowEntry?
    | '*' => l.alias?
    | '&' => l.anchor?
    | '!' => l.nodePart? (takeTag? l.inFlow)
    | '\'' => l.quoted? c
    | '"' => l.quoted? c
    | _ =>
      if c == '-' && standsAlone then l.blockMark? .blockSequenceStart .blockEntry true
      else if c == '?' && (l.inFlow || standsAlone) then
        l.blockMark? .blockMappingStart .key (!l.inFlow)
      else if c == ':' && (l.inFlow || standsAlone) then l.value?
      else if (c == '|' || c == '>') && !l.inFlow then l.block? (c == '>')
      else if startsPlain c then l.plain?
      else none

/-! ## All tokens -/

/-- Takes tokens up to the end of the text. Each takes at least one character. -/
def run? : Nat → Lexer → Option (List Token)
  | 0, _ => none
  | fuel + 1, l => do
    let l ← (l.skipGaps (l.spot.rest.length + 1)).dropStale?
    let l := l.closeBlocks (l.spot.column + 1)
    match l.spot.rest with
    | [] => (l.closeBlocks 0).dropStart?.map (·.tokens.reverse)
    | c :: _ => run? fuel (← l.token? c)

end Lexer

def tokens? (cs : List Char) : Option (List Token) :=
  if cs.all isAllowed then Lexer.run? (cs.length + 1) { spot := ⟨cs, 0, 0, 0⟩ } else none

end ApiAtlas.Yaml
