import ApiAtlas.Domain.Name
import ApiAtlas.Request.Percent
import ApiAtlas.Text.Blank

/-!
# Hosts

What may stand for a host in a URL: a name, or an address of version 4 or 6. A host whose last label
is a number is an address of version 4 and nothing else.
-/

namespace ApiAtlas.Request

inductive UrlError where
  | relative
  | emptyHost
  | invalidName
  | invalidCharacter
  | invalidVersion4
  | invalidVersion6
  | invalidPort
  deriving DecidableEq, Repr

def UrlError.message : UrlError → String
  | .relative => "relative URL without a base"
  | .emptyHost => "empty host"
  | .invalidName => "invalid international domain name"
  | .invalidCharacter => "invalid domain character"
  | .invalidVersion4 => "invalid IPv4 address"
  | .invalidVersion6 => "invalid IPv6 address"
  | .invalidPort => "invalid port number"

namespace Host

/-! ## Version 4 -/

/-- The value of digits in a base up to ten. -/
def number? (base : Nat) (cs : List Char) : Option Nat :=
  let digits := cs.map fun c => c.toNat - '0'.toNat
  if cs.all Char.isDigit && digits.all (· < base) then
    some (digits.foldl (fun n digit => base * n + digit) 0)
  else none

/-- A part of an address: a number of base ten, of base eight behind a zero, or of base sixteen
behind a zero and a letter. -/
def part? : List Char → Option Nat
  | [] => none
  | '0' :: 'x' :: cs => Text.hexNumber? cs
  | '0' :: c :: cs => number? 8 (c :: cs)
  | cs => number? 10 cs

/-- The labels of a name without the empty one behind a point at the end. -/
def labels (name : List Char) : List (List Char) :=
  let labels := name.splitOn '.'
  if labels.getLast? = some [] then labels.dropLast else labels

/-- Whether a name is to be an address of version 4. -/
def endsInNumber (name : List Char) : Bool :=
  match (labels name).getLast? with
  | some label => (!label.isEmpty && label.all Char.isDigit) || (part? label).isSome
  | none => false

/-- Whether a name is an address of version 4: at most four parts, where the last takes the room of
those that are missing. -/
def isVersion4 (name : List Char) : Bool :=
  let labels := labels name
  match labels.mapM part? with
  | some parts =>
    parts.length ≤ 4 && parts.dropLast.all (· < 256) &&
      parts.getLast?.any (· < Nat.pow 256 (5 - parts.length))
  | none => false

/-! ## Version 6 -/

/-- Whether a piece of an address is one to four digits of base sixteen. -/
def isPiece (cs : List Char) : Bool :=
  1 ≤ cs.length && cs.length ≤ 4 && (Text.hexNumber? cs).isSome

/-- Whether a piece is four numbers of base ten, none with a zero in front. -/
def isQuad (cs : List Char) : Bool :=
  let parts := cs.splitOn '.'
  parts.length == 4 && parts.all fun part =>
    (part.length == 1 || part.head? != some '0') && !part.isEmpty &&
      (number? 10 part).any (· < 256)

/-- The number of pieces of a part of an address, in which four numbers may take the last two. -/
def pieceCount? (mayEndInQuad : Bool) (cs : List Char) : Option Nat :=
  if cs.isEmpty then some 0
  else
    let pieces := cs.splitOn ':'
    if pieces.all isPiece then some pieces.length
    else if mayEndInQuad && pieces.dropLast.all isPiece && pieces.getLast?.any isQuad then
      some (pieces.length + 1)
    else none

/-- The parts in front of and behind the first double colon. -/
def splitGap? : List Char → Option (List Char × List Char)
  | ':' :: ':' :: cs => some ([], cs)
  | c :: cs => (splitGap? cs).map fun (front, back) => (c :: front, back)
  | [] => none

/-- Whether a text is an address of version 6: eight pieces, or fewer around one gap. -/
def isVersion6 (cs : List Char) : Bool :=
  match splitGap? cs with
  | some (front, back) =>
    match pieceCount? false front, pieceCount? true back with
    | some n, some m => n + m ≤ 7
    | _, _ => false
  | none => pieceCount? true cs == some 8

/-! ## Names -/

/-- A name with its escapes read, as it is compared. -/
def nameOf? (cs : List Char) : Option (List Char) :=
  (String.fromUTF8? ⟨(percentBytes cs).toArray⟩).bind fun text =>
    (Domain.labels? text.toList).map (['.'].intercalate ·)

def bracketed (cs : List Char) : Except UrlError String :=
  if cs.getLast? = some ']' ∧ isVersion6 (cs.drop 1).dropLast then .ok (String.ofList cs)
  else .error .invalidVersion6

/-- The host of a scheme that knows what hosts are. -/
def ofText (cs : List Char) : Except UrlError String :=
  if cs.head? = some '[' then bracketed cs
  else
    match nameOf? cs with
    | none => .error .invalidName
    | some [] => .error .emptyHost
    | some name =>
      if endsInNumber name && !isVersion4 name then .error .invalidVersion4
      else .ok (String.ofList name)

/-- The host of any other scheme, which may be empty. -/
def ofOpaque (cs : List Char) : Except UrlError String :=
  let isForbidden (c : Char) : Bool := "\x00\t\n\r #/:<>?@[\\]^|".toList.contains c
  if cs.head? = some '[' then bracketed cs
  else if cs.any isForbidden then .error .invalidCharacter
  else .ok (String.ofList cs)

end Host

end ApiAtlas.Request
