/-!
# The civil calendar

Days counted from 1970-01-01 as dates of the Gregorian calendar, extended in both directions, and
seconds counted from its midnight as dates with a time of day.
-/

namespace ApiAtlas.Rendering

/-- A date; the year before year 1 is year 0. -/
structure Date where
  year : Int
  month : Nat
  day : Nat
  deriving DecidableEq, Repr

/-- The date of a day. Years are counted from March on, so that the leap day ends one; 400 of them
have 146097 days, and five months from March on have 153. -/
def Date.ofDays (days : Int) : Date :=
  let shifted := days + 719468
  let era := shifted.fdiv 146097
  let dayOfEra := (shifted.fmod 146097).toNat
  let yearOfEra := (dayOfEra - dayOfEra / 1460 + dayOfEra / 36524 - dayOfEra / 146096) / 365
  let dayOfYear := dayOfEra - (365 * yearOfEra + yearOfEra / 4 - yearOfEra / 100)
  let shiftedMonth := (5 * dayOfYear + 2) / 153
  let day := dayOfYear - (153 * shiftedMonth + 2) / 5 + 1
  let month := if shiftedMonth < 10 then shiftedMonth + 3 else shiftedMonth - 9
  let year := era * 400 + yearOfEra + if month ≤ 2 then 1 else 0
  ⟨year, month, day⟩

/-- A number with zeros in front up to a width. -/
def padded (width n : Nat) : String :=
  let digits := toString n
  String.ofList (List.replicate (width - digits.length) '0') ++ digits

/-- Below a hundred, a number padded to two digits has just these, and they tell it. -/
theorem padded_two : ∀ n < 100, (padded 2 n).toList.length = 2 ∧
    (padded 2 n).toList.all Char.isDigit = true ∧
    Nat.ofDigitChars 10 (padded 2 n).toList 0 = n := by
  decide +kernel

/-- A year has at least four digits, a sign if it is negative or has more. -/
def yearText (year : Int) : String :=
  (if year < 0 then "-" else if 9999 < year then "+" else "") ++ padded 4 year.natAbs

/-- The years for which timestamps are written as dates. -/
def firstYear : Int := -262143

def lastYear : Int := 262142

/-- The date and time of a number of seconds, within the supported years. -/
def timestampText? (seconds : Int) : Option String :=
  let date := Date.ofDays (seconds.fdiv 86400)
  let second := (seconds.fmod 86400).toNat
  if firstYear ≤ date.year ∧ date.year ≤ lastYear then
    some <| yearText date.year ++ "-" ++ padded 2 date.month ++ "-" ++ padded 2 date.day ++ " " ++
      padded 2 (second / 3600) ++ ":" ++ padded 2 (second % 3600 / 60) ++ ":" ++
      padded 2 (second % 60)
  else none

example : Date.ofDays 0 = ⟨1970, 1, 1⟩ := by decide
example : Date.ofDays 11016 = ⟨2000, 2, 29⟩ := by decide
example : Date.ofDays (-1) = ⟨1969, 12, 31⟩ := by decide

end ApiAtlas.Rendering
