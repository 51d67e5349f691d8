import ApiAtlas.Binary64.Basic

/-!
# Decimal texts of binary numbers

A binary number is written with the fewest decimal digits that read back as it, or with a fixed
number of places rounded from its exact value. How the digits are laid out is a `DecimalStyle`.
Reading accepts the usual spellings of decimal numbers, infinity and not-a-number.
-/

namespace ApiAtlas

/-- Which of two equally near decimals is taken. -/
inductive Tie where
  | even
  | up
  deriving DecidableEq, Repr

/-- How the digits of a finite number are written. -/
structure DecimalStyle where
  /-- The choice between two shortest decimals that are equally near. -/
  tie : Tie
  /-- Whether a whole number written without an exponent ends in `.0`. -/
  keepsFraction : Bool
  /-- Least and greatest exponent of the leading digit that are written without an exponent;
  `none` if an exponent is never written. -/
  positional : Option (Int × Int)

namespace Binary64

/-- The exponent of the leading decimal digit of a positive quotient. -/
def leadingExponent (num den : Nat) : Int :=
  if den ≤ num then (Nat.toDigits 10 (num / den)).length - 1
  else -((Nat.toDigits 10 ((den - 1) / num)).length : Int)

/-- The point of the grid of step `10 ^ k` that is nearest to `m · 2 ^ e`, if it is among the
reals that round to that number: those up to half a step of the mantissa away, ends included for
an even mantissa. Below a power of two the step is half as long. -/
def onGrid? (tie : Tie) (m : Nat) (e : Int) (k : Int) : Option Nat :=
  let lowEnd := if m = Nat.pow 2 52 ∧ leastExponent < e then 4 * m - 1 else 4 * m - 2
  let point := Nat.pow 10 k.toNat * Nat.pow 2 (2 - e).toNat
  let unit := Nat.pow 10 (-k).toNat * Nat.pow 2 (e - 2).toNat
  let value := 4 * m * unit
  let inside (c : Nat) : Bool :=
    if m % 2 = 0 then lowEnd * unit ≤ c * point && c * point ≤ (4 * m + 2) * unit
    else lowEnd * unit < c * point && c * point < (4 * m + 2) * unit
  let below := value / point
  let toBelow := value - below * point
  let toAbove := (below + 1) * point - value
  let takesBelow := toBelow < toAbove || (toBelow == toAbove && tie = .even && below % 2 = 0)
  match inside below, inside (below + 1) with
  | true, true => some (if takesBelow then below else below + 1)
  | true, false => some below
  | false, true => some (below + 1)
  | false, false => none

/-- Removes the zeros at the end of a decimal. -/
def dropZeros : Nat → Nat → Int → Nat × Int
  | 0, digits, k => (digits, k)
  | fuel + 1, digits, k =>
    if digits % 10 = 0 then dropZeros fuel (digits / 10) (k + 1) else (digits, k)

/-- The shortest decimal `(d, k)`, meaning `d · 10 ^ k`, that reads back as the positive number
`m · 2 ^ e`. Seventeen digits are always enough. -/
def shortest (tie : Tie) (m : Nat) (e : Int) : Nat × Int :=
  let (num, den) := ratio m e
  let lead := leadingExponent num den
  let grids := (List.range 17).map fun n : Nat => lead - n
  match grids.findSome? fun k => (onGrid? tie m e k).map fun d => (d, k) with
  | some (d, k) => dropZeros 17 d k
  | none => (0, 0)

/-- Digits without an exponent, `lead` being the exponent of the first. -/
def positionalText (keepsFraction : Bool) (digits : List Char) (lead : Int) : List Char :=
  if lead < 0 then
    '0' :: '.' :: List.replicate (-lead - 1).toNat '0' ++ digits
  else
    let whole := lead.toNat + 1
    if whole < digits.length then digits.take whole ++ '.' :: digits.drop whole
    else
      digits ++ List.replicate (whole - digits.length) '0' ++
        if keepsFraction then ['.', '0'] else []

/-- Digits with an exponent that always has a sign. -/
def scientificText (digits : List Char) (lead : Int) : List Char :=
  let fraction := digits.drop 1
  digits.take 1 ++ (if fraction.isEmpty then [] else '.' :: fraction) ++
    'e' :: (if lead < 0 then '-' else '+') :: (toString lead.natAbs).toList

/-- The digits of `d · 10 ^ k` in a style. -/
def DecimalStyle.layout (style : DecimalStyle) (d : Nat) (k : Int) : List Char :=
  let digits := Nat.toDigits 10 d
  let lead := k + digits.length - 1
  let isPositional := match style.positional with
    | some (low, high) => decide (low ≤ lead ∧ lead ≤ high)
    | none => true
  if isPositional then positionalText style.keepsFraction digits lead
  else scientificText digits lead

def render (style : DecimalStyle) : Binary64 → String
  | .nan => "NaN"
  | .infinite s => if s then "-inf" else "inf"
  | .finite s m e =>
    let (d, k) := if m = 0 then (0, 0) else shortest style.tie m e
    String.ofList ((if s then ['-'] else []) ++ DecimalStyle.layout style d k)

/-- Digits only, a fraction only where there is one. -/
def plainStyle : DecimalStyle := ⟨.up, false, none⟩

def plainText (x : Binary64) : String := x.render plainStyle

/-- The exact value with a fixed number of places, a half to the even neighbour. -/
def fixedText (places : Nat) : Binary64 → String
  | .nan => "NaN"
  | .infinite s => if s then "-inf" else "inf"
  | .finite s m e =>
    let (num, den) := ratio m e
    let units := roundQuotient (num * Nat.pow 10 places) den
    let part := Nat.toDigits 10 (units % Nat.pow 10 places)
    String.ofList <|
      (if s then ['-'] else []) ++ Nat.toDigits 10 (units / Nat.pow 10 places) ++
        '.' :: List.replicate (places - part.length) '0' ++ part

def digitsValue (ds : List Char) : Nat :=
  ds.foldl (fun n c => 10 * n + (c.toNat - '0'.toNat)) 0

def takeDigits (cs : List Char) : List Char × List Char := cs.span Char.isDigit

/-- Splits off a sign at the front; the first part says whether it is a minus. -/
def takeSign : List Char → Bool × List Char
  | '-' :: cs => (true, cs)
  | '+' :: cs => (false, cs)
  | cs => (false, cs)

/-- An exponent part that takes all of the text, or nothing at all. -/
def exponent? : List Char → Option Int
  | [] => some 0
  | c :: cs =>
    if c == 'e' || c == 'E' then
      let (negative, digits) := takeSign cs
      if digits.isEmpty || !digits.all Char.isDigit then none
      else
        let n : Int := digitsValue digits
        some (if negative then -n else n)
    else none

/-- Reads a decimal: digits with an optional point, at least one digit in all, and an optional
exponent. -/
def decimal? (negative : Bool) (cs : List Char) : Option Binary64 :=
  let (whole, rest) := takeDigits cs
  let (fraction, rest) := match rest with
    | '.' :: rest => takeDigits rest
    | rest => ([], rest)
  if whole.isEmpty && fraction.isEmpty then none
  else (exponent? rest).map fun e =>
    ofDecimal negative (digitsValue (whole ++ fraction)) (e - fraction.length)

/-- Reads a number: a decimal, infinity or not-a-number in any letter case, with an optional
sign. -/
def ofText? (cs : List Char) : Option Binary64 :=
  let (negative, body) := takeSign cs
  match String.ofList (body.map Char.toLower) with
  | "inf" | "infinity" => some (.infinite negative)
  | "nan" => some .nan
  | _ => decimal? negative body

end Binary64

end ApiAtlas
