import ApiAtlas.Request.Percent

/-!
# Forms that are read back

A form says the names and values that it was made of. Its pieces stand between ampersands, and a
piece has a name in front of its first equals sign and a value behind it. In both a plus sign is a
space, and escapes are read.
-/

namespace ApiAtlas.Request

/-! ## Bytes of texts -/

theorem fromUTF8?_encoded (cs : List Char) :
    String.fromUTF8? ⟨(cs.flatMap String.utf8EncodeChar).toArray⟩ = some (String.ofList cs) := by
  have hbytes : (⟨(cs.flatMap String.utf8EncodeChar).toArray⟩ : ByteArray) =
      (String.ofList cs).toByteArray := by
    rw [String.toByteArray_ofList, List.utf8Encode]
    exact ByteArray.ext List.data_toByteArray.symm
  rw [hbytes, String.fromUTF8?, dif_pos (String.ofList cs).isValidUTF8]
  rfl

/-! ## Characters of escapes -/

def escapeChars : List Char := '%' :: "0123456789ABCDEF".toList

theorem mem_escapeByte {b : UInt8} {d : Char} (h : d ∈ escapeByte b) : d ∈ escapeChars := by
  have hdigit : ∀ n < 16, Text.upperHexDigit n ∈ escapeChars := by decide
  have hhigh := hdigit (b.toNat / 16) (by have := b.toNat_lt; omega)
  have hlow := hdigit (b.toNat % 16) (by omega)
  simp only [escapeByte, List.mem_cons, List.not_mem_nil, or_false] at h
  rcases h with rfl | rfl | rfl
  · exact List.mem_cons_self
  · exact hhigh
  · exact hlow

theorem mem_percentChar {isPlain : Char → Bool} {c d : Char} (h : d ∈ percentChar isPlain c) :
    (isPlain c = true ∧ d = c) ∨ d ∈ escapeChars := by
  rw [percentChar] at h
  split at h
  · rename_i hplain
    exact .inl ⟨hplain, List.mem_singleton.mp h⟩
  · obtain ⟨b, -, hb⟩ := List.mem_flatMap.mp h
    exact .inr (mem_escapeByte hb)

/-! ## Parts of a form -/

def isFormChar (c : Char) : Bool := c.isAlphanum || c == '*' || c == '-' || c == '.' || c == '_'

def formChar (c : Char) : List Char := if c == ' ' then ['+'] else percentChar isFormChar c

theorem toList_formText (text : String) :
    (formText text).toList = text.toList.flatMap formChar :=
  String.toList_ofList

/-- A part of a form has no character that parts it from others. -/
theorem not_mem_formText {c : Char} (hplus : c ≠ '+') (hplain : isFormChar c = false)
    (hescape : c ∉ escapeChars) (text : String) : c ∉ (formText text).toList := by
  intro hmem
  rw [toList_formText] at hmem
  obtain ⟨d, -, hd⟩ := List.mem_flatMap.mp hmem
  rw [formChar] at hd
  split at hd
  · exact hplus (List.mem_singleton.mp hd)
  · rcases mem_percentChar hd with ⟨hform, rfl⟩ | hmem
    · rw [hplain] at hform
      contradiction
    · exact hescape hmem

def spaced (cs : List Char) : List Char := cs.map fun c => if c == '+' then ' ' else c

theorem spaced_of_not_mem {cs : List Char} (h : '+' ∉ cs) : spaced cs = cs := by
  refine (List.map_congr_left fun c hc => ?_).trans (List.map_id cs)
  have hne : c ≠ '+' := fun heq => h (heq ▸ hc)
  simp [hne]

theorem percentBytes_formChar (c : Char) (rest : List Char) :
    percentBytes (spaced (formChar c) ++ rest) =
      String.utf8EncodeChar c ++ percentBytes rest := by
  by_cases hspace : c = ' '
  · rw [hspace]
    exact percentBytes_cons (by decide) rest
  have hplus : '+' ∉ percentChar isFormChar c := by
    intro hmem
    rcases mem_percentChar hmem with ⟨hform, rfl⟩ | hmem
    · exact absurd hform (by decide)
    · exact absurd hmem (by decide)
  rw [formChar, if_neg (by simpa using hspace), spaced_of_not_mem hplus, percentChar]
  split
  · rename_i hform
    refine percentBytes_cons ?_ rest
    rintro rfl
    exact absurd hform (by decide)
  · exact percentBytes_escapeBytes _ rest

theorem percentBytes_formText (text : String) :
    percentBytes (spaced (formText text).toList) = text.toList.flatMap String.utf8EncodeChar := by
  rw [toList_formText]
  induction text.toList with
  | nil => rfl
  | cons c cs ih =>
    rw [List.flatMap_cons, spaced, List.map_append]
    exact (percentBytes_formChar c _).trans (congrArg (String.utf8EncodeChar c ++ ·) ih)

/-- The text that a name or value of a form stands for. -/
def formPart? (cs : List Char) : Option String :=
  String.fromUTF8? ⟨(percentBytes (spaced cs)).toArray⟩

theorem formPart?_formText (text : String) : formPart? (formText text).toList = some text := by
  rw [formPart?, percentBytes_formText, fromUTF8?_encoded, String.ofList_toList]

/-! ## Whole forms -/

/-- The name and the value of a piece of a form. -/
def formPair? (piece : List Char) : Option (String × String) := do
  let name ← formPart? (piece.takeWhile (· != '='))
  let value ← formPart? ((piece.dropWhile (· != '=')).drop 1)
  return (name, value)

/-- The names and values of a form. Pieces without characters are passed over. -/
def formPairs? (form : String) : Option (List (String × String)) :=
  ((form.toList.splitOn '&').filter (!·.isEmpty)).mapM formPair?

def formPiece (pair : String × String) : List Char :=
  (formText pair.1).toList ++ '=' :: (formText pair.2).toList

theorem formPair?_formPiece (pair : String × String) : formPair? (formPiece pair) = some pair := by
  have hname : ∀ c ∈ (formText pair.1).toList, (c != '=') = true := by
    intro c hc
    have hequals : '=' ∉ (formText pair.1).toList :=
      not_mem_formText (by decide) (by decide) (by decide) pair.1
    have hne : c ≠ '=' := fun heq => hequals (heq ▸ hc)
    simpa using hne
  rw [formPair?, formPiece, List.takeWhile_append_of_pos hname, List.dropWhile_append_of_pos hname]
  simp [formPart?_formText]

theorem ampersand_not_mem_formPiece (pair : String × String) : '&' ∉ formPiece pair := by
  have hmark : ∀ text, '&' ∉ (formText text).toList :=
    not_mem_formText (by decide) (by decide) (by decide)
  simp [formPiece, hmark]

theorem toList_formPairs (pairs : List (String × String)) :
    (formPairs pairs).toList = ['&'].intercalate (pairs.map formPiece) := by
  have hpiece : String.toList ∘ (fun pair : String × String =>
      formText pair.1 ++ "=" ++ formText pair.2) = formPiece := by
    funext pair
    simp [formPiece]
  have hpairs : formPairs pairs = "&".intercalate (pairs.map fun pair =>
      formText pair.1 ++ "=" ++ formText pair.2) := rfl
  rw [hpairs, String.toList_intercalate, List.map_map, hpiece]
  rfl

/-- A form is read as the names and values that it was made of. -/
theorem formPairs?_formPairs (pairs : List (String × String)) :
    formPairs? (formPairs pairs) = some pairs := by
  cases hpairs : pairs with
  | nil => rfl
  | cons pair rest =>
    rw [← hpairs, formPairs?, toList_formPairs, List.splitOn_intercalate]
    · have hfilter : (pairs.map formPiece).filter (!·.isEmpty) = pairs.map formPiece := by
        refine List.filter_eq_self.mpr fun piece hpiece => ?_
        obtain ⟨pair, -, rfl⟩ := List.mem_map.mp hpiece
        simp [formPiece]
      have hread : formPair? ∘ formPiece = fun pair => pure pair := funext formPair?_formPiece
      rw [hfilter, List.mapM_map, hread, List.mapM_pure]
      exact congrArg some (List.map_id pairs)
    · intro piece hpiece
      obtain ⟨pair, -, rfl⟩ := List.mem_map.mp hpiece
      exact ampersand_not_mem_formPiece pair
    · simp [hpairs]

end ApiAtlas.Request
