import ApiAtlas.Text.Hex

/-!
# Percent encoding

Bytes of the UTF-8 form of a text that are not in a set of plain ones are written as `%` and two
digits of base sixteen, in upper case.
-/

namespace ApiAtlas.Request

def escapeByte (b : UInt8) : List Char :=
  ['%', Text.upperHexDigit (b.toNat / 16), Text.upperHexDigit (b.toNat % 16)]

/-- A character as it is if it is plain, otherwise its bytes escaped. -/
def percentChar (isPlain : Char → Bool) (c : Char) : List Char :=
  if isPlain c then [c] else (String.utf8EncodeChar c).flatMap escapeByte

def percentText (isPlain : Char → Bool) (cs : List Char) : String :=
  String.ofList (cs.flatMap (percentChar isPlain))

/-- The bytes of a text, where an escape is the byte that it names. -/
def percentBytes : List Char → List UInt8
  | [] => []
  | '%' :: a :: b :: cs =>
    match Text.hexNumber? [a, b] with
    | some n => UInt8.ofNat n :: percentBytes cs
    | none => String.utf8EncodeChar '%' ++ percentBytes (a :: b :: cs)
  | c :: cs => String.utf8EncodeChar c ++ percentBytes cs

theorem percentBytes_escapeByte (b : UInt8) (rest : List Char) :
    percentBytes (escapeByte b ++ rest) = b :: percentBytes rest := by
  simp [escapeByte, percentBytes, Text.hexNumber?_upperHexDigits b.toNat_lt]

theorem percentBytes_escapeBytes (bytes : List UInt8) (rest : List Char) :
    percentBytes (bytes.flatMap escapeByte ++ rest) = bytes ++ percentBytes rest := by
  induction bytes with
  | nil => rfl
  | cons b bytes ih => simp [percentBytes_escapeByte, ih]

theorem percentBytes_cons {c : Char} (h : c ≠ '%') (rest : List Char) :
    percentBytes (c :: rest) = String.utf8EncodeChar c ++ percentBytes rest := by
  rw [percentBytes]
  exact fun _ _ _ hc _ => h hc

/-- The bytes of a text are found again behind its escapes, unless the percent sign is plain. -/
theorem percentBytes_percentText {isPlain : Char → Bool} (h : isPlain '%' = false)
    (cs : List Char) :
    percentBytes (percentText isPlain cs).toList = cs.flatMap String.utf8EncodeChar := by
  simp only [percentText, String.toList_ofList]
  induction cs with
  | nil => rfl
  | cons c cs ih =>
    simp only [List.flatMap_cons]
    by_cases hc : isPlain c
    · have hne : c ≠ '%' := by
        rintro rfl
        simp [h] at hc
      simp [percentChar, hc, percentBytes_cons hne, ih]
    · simp [percentChar, hc, percentBytes_escapeBytes, ih]

/-- The letters, digits and marks that never need an escape. -/
def isUnreserved (c : Char) : Bool :=
  c.isAlphanum || c == '-' || c == '_' || c == '.' || c == '~'

/-- A text as one segment of a path. -/
def encodeSegment (text : String) : String := percentText isUnreserved text.toList

/-- A text in a form: spaces are plus signs. -/
def formText (text : String) : String :=
  let isPlain (c : Char) : Bool := c.isAlphanum || c == '*' || c == '-' || c == '.' || c == '_'
  String.ofList (text.toList.flatMap fun c => if c == ' ' then ['+'] else percentChar isPlain c)

def formPairs (pairs : List (String × String)) : String :=
  "&".intercalate (pairs.map fun (name, value) => formText name ++ "=" ++ formText value)

end ApiAtlas.Request
