import ApiAtlas.Json.Basic
import ApiAtlas.Text.Hex

/-!
# Reading JSON

A strict reader of RFC 8259 that takes one value off the front of a text. It refuses arrays and
objects nested more deeply than a given limit. A number without fraction and exponent stays whole if
it fits 64 bits; minus zero does not, and any other number is rounded to binary64, where one beyond
the largest is refused.
-/

namespace ApiAtlas.Json

def isSpace (c : Char) : Bool := c == ' ' || c == '\t' || c == '\n' || c == '\r'

def skipSpace (cs : List Char) : List Char := cs.dropWhile isSpace

/-- The code unit of four digits of base sixteen. -/
def unit? (a b c d : Char) : Option Nat := Text.hexNumber? [a, b, c, d]

/-- The character that stands after a backslash, other than the escapes with a code. -/
def shortEscape? : Char → Option Char
  | '"' => some '"'
  | '\\' => some '\\'
  | '/' => some '/'
  | 'b' => some '\x08'
  | 'f' => some '\x0c'
  | 'n' => some '\n'
  | 'r' => some '\r'
  | 't' => some '\t'
  | _ => none

/-- The rest of a string after its opening quote, behind what has been read of it in reverse. Two
surrogates in a row are one character; one that stands alone is refused. -/
def stringTail (done : List Char) : List Char → Option (String × List Char)
  | '"' :: rest => some (String.ofList done.reverse, rest)
  | '\\' :: 'u' :: a :: b :: c :: d :: rest =>
    match unit? a b c d with
    | none => none
    | some high =>
      if 0xD800 ≤ high ∧ high ≤ 0xDBFF then
        match rest with
        | '\\' :: 'u' :: a :: b :: c :: d :: rest =>
          match unit? a b c d with
          | none => none
          | some low =>
            if 0xDC00 ≤ low ∧ low ≤ 0xDFFF then
              let code := 0x10000 + 1024 * (high - 0xD800) + (low - 0xDC00)
              stringTail (Char.ofNat code :: done) rest
            else none
        | _ => none
      else if 0xDC00 ≤ high ∧ high ≤ 0xDFFF then none
      else stringTail (Char.ofNat high :: done) rest
  | '\\' :: c :: rest =>
    match shortEscape? c with
    | some c => stringTail (c :: done) rest
    | none => none
  | c :: rest => if c.toNat < 0x20 || c == '\\' then none else stringTail (c :: done) rest
  | [] => none

/-- The digits of a whole part: a zero is not followed by a digit. -/
def wholeDigits? (cs : List Char) : Option (List Char × List Char) :=
  match Binary64.takeDigits cs with
  | ([], _) => none
  | (['0'], rest) => some (['0'], rest)
  | ('0' :: _, _) => none
  | parts => some parts

/-- An optional fraction: a point and at least one digit. -/
def fraction? : List Char → Option (List Char × List Char)
  | '.' :: cs =>
    match Binary64.takeDigits cs with
    | ([], _) => none
    | parts => some parts
  | cs => some ([], cs)

def exponent? : List Char → Option (Option Int × List Char)
  | cs@(c :: rest) =>
    if c == 'e' || c == 'E' then
      let (negative, rest) := Binary64.takeSign rest
      match Binary64.takeDigits rest with
      | ([], _) => none
      | (digits, rest) =>
        let n : Int := Binary64.digitsValue digits
        some (some (if negative then -n else n), rest)
    else some (none, cs)
  | [] => some (none, [])

/-- The largest whole numbers that stay whole. -/
def fitsWord (n : Int) : Bool := -9223372036854775808 ≤ n && n ≤ 18446744073709551615

def numberValue? (negative : Bool) (whole fraction : List Char) (exponent : Option Int) :
    Option Json :=
  let digits := Binary64.digitsValue (whole ++ fraction)
  let n : Int := if negative then -digits else digits
  if fraction.isEmpty && exponent.isNone && fitsWord n && !(negative && digits == 0) then
    some (.int n)
  else
    match Binary64.ofDecimal negative digits (exponent.getD 0 - fraction.length) with
    | x@(.finite ..) => some (.real x)
    | _ => none

def number (cs : List Char) : Option (Json × List Char) := do
  let (negative, cs) := match cs with
    | '-' :: rest => (true, rest)
    | cs => (false, cs)
  let (whole, cs) ← wholeDigits? cs
  let (fraction, cs) ← fraction? cs
  let (exponent, cs) ← exponent? cs
  let value ← numberValue? negative whole fraction exponent
  return (value, cs)

/-- One entry after another, separated by commas, up to a closing bracket; the fuel bounds their
number. -/
def series {α : Type} (entry : List Char → Option (α × List Char)) (closing : Char) :
    Nat → List Char → Option (List α × List Char)
  | 0, _ => none
  | fuel + 1, cs => do
    let (x, rest) ← entry cs
    match skipSpace rest with
    | ',' :: rest =>
      let (xs, rest) ← series entry closing fuel rest
      return (x :: xs, rest)
    | c :: rest => if c = closing then return ([x], rest) else none
    | [] => none

/-- The entries behind an opening bracket. Each takes at least one character. -/
def bracketed {α : Type} (entry : List Char → Option (α × List Char)) (closing : Char)
    (cs : List Char) : Option (List α × List Char) :=
  match skipSpace cs with
  | c :: rest => if c = closing then some ([], rest) else series entry closing (cs.length + 1) cs
  | [] => none

def member (value : List Char → Option (Json × List Char)) (cs : List Char) :
    Option ((String × Json) × List Char) :=
  match skipSpace cs with
  | '"' :: rest => do
    let (name, rest) ← stringTail [] rest
    match skipSpace rest with
    | ':' :: rest =>
      let (v, rest) ← value rest
      return ((name, v), rest)
    | _ => none
  | _ => none

/-- Reads a value that is neither array nor object. -/
def leaf : List Char → Option (Json × List Char)
  | '"' :: cs => (stringTail [] cs).map fun (s, rest) => (.str s, rest)
  | 'n' :: 'u' :: 'l' :: 'l' :: cs => some (.null, cs)
  | 't' :: 'r' :: 'u' :: 'e' :: cs => some (.bool true, cs)
  | 'f' :: 'a' :: 'l' :: 's' :: 'e' :: cs => some (.bool false, cs)
  | cs => number cs

/-- Takes a value off the front of a text, with brackets nested at most `depth` deep. -/
def value : Nat → List Char → Option (Json × List Char)
  | 0, cs =>
    match skipSpace cs with
    | '[' :: _ => none
    | '{' :: _ => none
    | cs => leaf cs
  | depth + 1, cs =>
    match skipSpace cs with
    | '[' :: cs => (bracketed (value depth) ']' cs).map fun (items, rest) => (.arr items, rest)
    | '{' :: cs =>
      (bracketed (member (value depth)) '}' cs).map fun (fields, rest) => (.obj fields, rest)
    | cs => leaf cs

/-- Reads a text that holds one value and nothing else but white space. -/
def read? (depth : Nat) (cs : List Char) : Option Json :=
  match value depth cs with
  | some (v, rest) => if (skipSpace rest).isEmpty then some v else none
  | none => none

end ApiAtlas.Json
