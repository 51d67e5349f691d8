/-!
# Digits of base sixteen
-/

namespace ApiAtlas.Text

/-- The value of a digit of base sixteen. -/
def hexValue? (c : Char) : Option Nat :=
  if '0' ≤ c && c ≤ '9' then some (c.toNat - '0'.toNat)
  else if 'a' ≤ c && c ≤ 'f' then some (c.toNat - 'a'.toNat + 10)
  else if 'A' ≤ c && c ≤ 'F' then some (c.toNat - 'A'.toNat + 10)
  else none

/-- The value of digits of base sixteen, the highest first. -/
def hexNumber? (cs : List Char) : Option Nat :=
  (cs.mapM hexValue?).map (·.foldl (fun n digit => 16 * n + digit) 0)

/-- A digit of base sixteen, in upper case. -/
def upperHexDigit (n : Nat) : Char := ("0123456789ABCDEF".toList[n]?).getD '0'

theorem hexValue?_upperHexDigit : ∀ n < 16, hexValue? (upperHexDigit n) = some n := by decide

theorem hexNumber?_upperHexDigits {n : Nat} (h : n < 256) :
    hexNumber? [upperHexDigit (n / 16), upperHexDigit (n % 16)] = some n := by
  have hhigh := hexValue?_upperHexDigit (n / 16) (by omega)
  have hlow := hexValue?_upperHexDigit (n % 16) (by omega)
  simp [hexNumber?, hhigh, hlow]
  omega

end ApiAtlas.Text
