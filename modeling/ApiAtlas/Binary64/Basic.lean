/-!
# Binary numbers with 53 bits

The numbers of the interchange format binary64 as exact values: a finite one is a signed whole
mantissa times a power of two. Arithmetic is done on exact quotients and rounded once, to the
nearest number of the format and to the even mantissa on a tie.
-/

namespace ApiAtlas

/-- The quotient of two natural numbers, rounded to the nearest whole number, a half to the even
one. -/
def roundQuotient (num den : Nat) : Nat :=
  let q := num / den
  let twice := 2 * (num % den)
  if twice < den then q else if den < twice then q + 1 else q + q % 2

/-- A number of the format binary64; `finite s m e` is `m · 2 ^ e`, negated if `s`. -/
inductive Binary64 where
  | nan
  | infinite (negative : Bool)
  | finite (negative : Bool) (mantissa : Nat) (exponent : Int)
  deriving DecidableEq, Repr

namespace Binary64

/-- The exponent of the least positive number. -/
def leastExponent : Int := -1074

def greatestExponent : Int := 971

def zero (negative : Bool) : Binary64 := .finite negative 0 leastExponent

/-- Numerator and denominator of `num / den / 2 ^ e`. -/
def scaled (num den : Nat) (e : Int) : Nat × Nat :=
  if 0 ≤ e then (num, den * Nat.pow 2 e.toNat) else (num * Nat.pow 2 (-e).toNat, den)

/-- The exponent at which `num / den` has a mantissa of 53 bits, or the least exponent if that is
larger. -/
def exponentOf (num den : Nat) : Int :=
  let low : Int := (num.log2 : Int) - den.log2 - 53
  let (a, b) := scaled num den low
  max leastExponent (if Nat.pow 2 53 * b ≤ a then low + 1 else low)

/-- A mantissa of at most `2 ^ 53` with its exponent, as a number of the format. -/
def pack (negative : Bool) (mantissa : Nat) (exponent : Int) : Binary64 :=
  let (m, e) := if mantissa = Nat.pow 2 53 then (Nat.pow 2 52, exponent + 1)
    else (mantissa, exponent)
  if greatestExponent < e then .infinite negative else .finite negative m e

/-- The number nearest to `num / den`, for a positive `den`. -/
def ofRatio (negative : Bool) (num den : Nat) : Binary64 :=
  if num = 0 then zero negative
  else
    let e := exponentOf num den
    let (a, b) := scaled num den e
    pack negative (roundQuotient a b) e

def ofInt (n : Int) : Binary64 := ofRatio (n < 0) n.natAbs 1

/-- The number nearest to `digits · 10 ^ exponent`. A value of more than 310 digits before the
point is beyond the largest number, and one that starts after 330 zeros rounds to zero. -/
def ofDecimal (negative : Bool) (digits : Nat) (exponent : Int) : Binary64 :=
  let magnitude := exponent + (Nat.toDigits 10 digits).length
  if digits = 0 ∨ magnitude < -330 then zero negative
  else if 310 < magnitude then .infinite negative
  else if 0 ≤ exponent then ofRatio negative (digits * Nat.pow 10 exponent.toNat) 1
  else ofRatio negative digits (Nat.pow 10 (-exponent).toNat)

/-- Numerator and denominator of `m · 2 ^ e`. -/
def ratio (m : Nat) (e : Int) : Nat × Nat :=
  if 0 ≤ e then (m * Nat.pow 2 e.toNat, 1) else (m, Nat.pow 2 (-e).toNat)

def mulNat (x : Binary64) (k : Nat) : Binary64 :=
  match x with
  | .finite s m e =>
    let (num, den) := ratio m e
    ofRatio s (num * k) den
  | other => other

def divNat (x : Binary64) (k : Nat) : Binary64 :=
  match x with
  | .finite s m e =>
    let (num, den) := ratio m e
    ofRatio s num (den * k)
  | other => other

def atLeast (x : Binary64) (k : Nat) : Bool :=
  match x with
  | .nan => false
  | .infinite s => !s
  | .finite s m e =>
    let (num, den) := ratio m e
    if s then num = 0 && k = 0 else k * den ≤ num

/-- The whole part, toward zero, brought into the range from `low` to `high`; the value that is no
number gives zero. -/
def truncateInto (low high : Int) : Binary64 → Int
  | .nan => 0
  | .infinite s => if s then low else high
  | .finite s m e =>
    let (num, den) := ratio m e
    let whole : Int := (num / den : Nat)
    max low (min high (if s then -whole else whole))

/-- The whole part within the signed words of 64 bits. -/
def toSignedWord (x : Binary64) : Int :=
  x.truncateInto (-9223372036854775808) 9223372036854775807

/-- The whole part within the unsigned words of 64 bits; a negative number counts as zero. -/
def toUnsignedWord (x : Binary64) : Nat := (x.truncateInto 0 18446744073709551615).toNat

end Binary64

end ApiAtlas
