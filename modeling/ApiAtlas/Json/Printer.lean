import ApiAtlas.Json.Basic

/-!
# Writing JSON

A value is written on one line without spaces, or with one member or item a line. Every name of an
object is written once. Strings escape the quote, the backslash and the characters below the
space; everything else is written as it is.
-/

namespace ApiAtlas.Json

/-- Reals keep a fraction; from `1e16` on and below `1e-5` they have an exponent. -/
def realStyle : DecimalStyle := ⟨.even, true, some (-5, 15)⟩

def hexDigit (n : Nat) : Char := ("0123456789abcdef".toList[n]?).getD '0'

def escapeChar (c : Char) : List Char :=
  match c with
  | '"' => ['\\', '"']
  | '\\' => ['\\', '\\']
  | '\n' => ['\\', 'n']
  | '\r' => ['\\', 'r']
  | '\t' => ['\\', 't']
  | '\x08' => ['\\', 'b']
  | '\x0c' => ['\\', 'f']
  | c =>
    if c.toNat < 0x20 then
      ['\\', 'u', '0', '0', hexDigit (c.toNat / 16), hexDigit (c.toNat % 16)]
    else [c]

def quote (s : String) : String := String.ofList ('"' :: s.toList.flatMap escapeChar ++ ['"'])

/-- The text of a value that is neither array nor object. -/
def leafText : Json → String
  | .null => "null"
  | .bool b => if b then "true" else "false"
  | .int n => toString n
  | .real x => x.render realStyle
  | .str s => quote s
  | .arr _ => "[]"
  | .obj _ => "\x7b\x7d"

mutual

/-- The text of a value on one line. -/
def compact : Json → String
  | .arr items => "[" ++ ",".intercalate (compactItems items) ++ "]"
  | .obj fields =>
    let texts := Fields.resolve (compactFields fields)
    "\x7b" ++ ",".intercalate (texts.map fun (name, text) => quote name ++ ":" ++ text) ++ "\x7d"
  | leaf => leafText leaf

def compactItems : List Json → List String
  | [] => []
  | item :: rest => compact item :: compactItems rest

def compactFields : List (String × Json) → Fields String
  | [] => []
  | (name, value) :: rest => (name, compact value) :: compactFields rest

end

def newline (depth : Nat) : String := String.ofList ('\n' :: List.replicate (2 * depth) ' ')

/-- Bracketed entries with one line each, or the empty brackets. -/
def block (opening closing : String) (depth : Nat) (entries : List String) : String :=
  if entries.isEmpty then opening ++ closing
  else
    opening ++ newline (depth + 1) ++ ("," ++ newline (depth + 1)).intercalate entries ++
      newline depth ++ closing

mutual

/-- The text of a value at a depth, with one member or item a line. -/
def prettyAt (depth : Nat) : Json → String
  | .arr items => block "[" "]" depth (prettyItems (depth + 1) items)
  | .obj fields =>
    let texts := Fields.resolve (prettyFields (depth + 1) fields)
    block "\x7b" "\x7d" depth (texts.map fun (name, text) => quote name ++ ": " ++ text)
  | leaf => leafText leaf

def prettyItems (depth : Nat) : List Json → List String
  | [] => []
  | item :: rest => prettyAt depth item :: prettyItems depth rest

def prettyFields (depth : Nat) : List (String × Json) → Fields String
  | [] => []
  | (name, value) :: rest => (name, prettyAt depth value) :: prettyFields depth rest

end

/-- The text of a value with one member or item a line. -/
def pretty (value : Json) : String := prettyAt 0 value

end ApiAtlas.Json
