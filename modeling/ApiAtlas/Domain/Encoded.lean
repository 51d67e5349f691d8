/-!
# Encoded labels

A label beyond ASCII can be written in letters, digits and hyphens: its ASCII characters, and behind
the last hyphen where the others go, in the order of their code points. Each is a number that counts
the places passed over since the one before: a round over all places of the label raises the code
point by one. Numbers are written with the lowest digit first, where how many numbers a digit can
stand for goes after the numbers in front of it.
-/

namespace ApiAtlas.Domain.Encoded

/-- The value of a digit of base 36. -/
def digit? (c : Char) : Option Nat :=
  if c.isDigit then some (c.toNat - '0'.toNat + 26)
  else if c.isAlpha then some (c.toLower.toNat - 'a'.toNat)
  else none

/-- The least value of a digit that is not the last of its number. -/
def threshold (place bias : Nat) : Nat := min 26 (max 1 (place - bias))

/-- Reads a number; nothing may pass what fits into 32 bits. -/
def number? (bias place weight total : Nat) : List Char → Option (Nat × List Char)
  | [] => none
  | c :: cs => do
    let digit ← digit? c
    let total := total + digit * weight
    let least := threshold place bias
    if 0xffffffff < total then none
    else if digit < least then return (total, cs)
    else
      let weight := weight * (36 - least)
      if 0xffffffff < weight then none else number? bias (place + 36) weight total cs

theorem length_number? {bias place weight total n : Nat} {cs rest : List Char}
    (h : number? bias place weight total cs = some (n, rest)) : rest.length < cs.length := by
  induction cs generalizing place weight total with
  | nil => simp [number?] at h
  | cons c cs ih =>
    cases hd : digit? c with
    | none => simp [number?, hd] at h
    | some digit =>
      simp only [number?, hd, Option.bind_eq_bind, Option.bind_some] at h
      split at h
      · simp at h
      · split at h
        · simp only [Option.pure_def, Option.some.injEq, Prod.mk.injEq] at h
          simp [h.2]
        · split at h
          · simp at h
          · exact Nat.lt_succ_of_lt (ih h)

/-- Divides a number down, and adds up what the divisions are worth. -/
def scale (n bias : Nat) : Nat :=
  if 455 < n then scale (n / 35) (bias + 36) else bias + 36 * n / (n + 38)
termination_by n
decreasing_by omega

/-- The bias behind a number, given the count of characters that there are then. -/
def nextBias (n count : Nat) (isFirst : Bool) : Nat :=
  let n := if isFirst then n / 700 else n / 2
  scale (n + n / count) 0

/-- Puts the characters that numbers stand for into a label. The count starts from a place and a
code point. -/
def insertAll? (bias place code : Nat) (label cs : List Char) : Option (List Char) :=
  if cs.isEmpty then some label
  else
    match h : number? bias 36 1 place cs with
    | none => none
    | some (total, rest) =>
      let count := label.length + 1
      let code := code + total / count
      let place' := total % count
      if !code.isValidChar then none
      else
        insertAll? (nextBias (total - place) count (place == 0)) (place' + 1) code
          (label.insertIdx place' (Char.ofNat code)) rest
termination_by cs.length
decreasing_by exact length_number? h

def decode? (cs : List Char) : Option (List Char) :=
  let numbers := (cs.reverse.takeWhile (· != '-')).reverse
  let plain := cs.take (cs.length - numbers.length - 1)
  if cs.any fun c => 0x80 ≤ c.toNat then none
  else if plain.isEmpty && cs.contains '-' then none
  else insertAll? 72 0 0x80 plain numbers

end ApiAtlas.Domain.Encoded
