import ApiAtlas.Json.Reader
import Mathlib.Data.List.TakeDrop

/-!
# Where a value ends

A string, an array and an object end by themselves: what follows them in a text is not looked at. A
number ends where something follows that is no part of it, and what comes after that is not looked
at either. Inside of brackets something always follows, down to the closing one.
-/

namespace ApiAtlas.Json

variable {α β : Type}

/-- A reader that reads the same from a text with more behind it, and leaves that. -/
def SelfDelimiting (read : List Char → Option (α × List Char)) : Prop :=
  ∀ cs x rest more, read cs = some (x, rest) → read (cs ++ more) = some (x, rest ++ more)

/-- A reader that does so where it does not come to the end of the text. -/
def Delimited (read : List Char → Option (α × List Char)) : Prop :=
  ∀ cs x rest more, rest ≠ [] → read cs = some (x, rest) →
    read (cs ++ more) = some (x, rest ++ more)

theorem SelfDelimiting.map {read : List Char → Option (α × List Char)} (h : SelfDelimiting read)
    (f : α → β) : SelfDelimiting fun cs => (read cs).map fun (x, rest) => (f x, rest) := by
  intro cs y rest more hread
  obtain ⟨⟨x, rest'⟩, hx, heq⟩ := Option.map_eq_some_iff.mp hread
  obtain ⟨rfl, rfl⟩ := Prod.mk.inj heq
  exact Option.map_eq_some_iff.mpr ⟨(x, rest' ++ more), h cs x rest' more hx, rfl⟩

theorem skipSpace_append {cs rest : List Char} {c : Char} (h : skipSpace cs = c :: rest)
    (more : List Char) : skipSpace (cs ++ more) = c :: (rest ++ more) := by
  rw [skipSpace] at h
  rw [skipSpace, List.dropWhile_append, h]
  rfl

/-! ## Strings -/

theorem selfDelimiting_stringTail (done : List Char) : SelfDelimiting (stringTail done) := by
  intro cs s rest more h
  fun_induction stringTail done cs with
  | case1 done tail =>
    obtain ⟨rfl, rfl⟩ := Prod.mk.inj (Option.some.inj h)
    simp [stringTail]
  | case4 done a b c d high hhigh hlead e f g i tail low hlow htrail code ih =>
    simpa [stringTail, hhigh, hlead, hlow, htrail] using ih h
  | case8 done a b c d tail code hcode hlead htrail ih =>
    simpa [stringTail, hcode, hlead, htrail] using ih h
  | case9 done c tail hlong escaped hescaped ih =>
    have hu : c ≠ 'u' := by
      rintro rfl
      simp [shortEscape?] at hescaped
    simpa [stringTail, hu, hescaped] using ih h
  | case12 done c tail hquote hlong hshort hplain ih =>
    have hslash : c ≠ '\\' := by
      rintro rfl
      simp at hplain
    rw [List.cons_append, stringTail]
    · simpa [hplain] using ih h
    · exact hquote
    · simp [hslash]
    · simp [hslash]
  | _ => contradiction

/-! ## Numbers -/

theorem takeDigits_append {cs digits rest : List Char} (more : List Char) (hrest : rest ≠ [])
    (h : Binary64.takeDigits cs = (digits, rest)) :
    Binary64.takeDigits (cs ++ more) = (digits, rest ++ more) := by
  rw [Binary64.takeDigits, List.span_eq_takeWhile_dropWhile] at h
  obtain ⟨hdigits, hdrop⟩ := Prod.mk.inj h
  have htake : (cs.takeWhile Char.isDigit).length ≠ cs.length := by
    intro hlength
    have hsum := congrArg List.length (List.takeWhile_append_dropWhile (p := Char.isDigit) (l := cs))
    rw [List.length_append, hlength, hdrop] at hsum
    exact hrest (List.length_eq_zero_iff.mp (by omega))
  rw [Binary64.takeDigits, List.span_eq_takeWhile_dropWhile, List.takeWhile_append,
    List.dropWhile_append, if_neg htake, hdigits, hdrop]
  simp [hrest]

theorem delimited_wholeDigits? : Delimited wholeDigits? := by
  intro cs digits rest more hrest h
  rcases hparts : Binary64.takeDigits cs with ⟨found, left⟩
  rw [wholeDigits?, hparts] at h
  have hsame : found = digits ∧ left = rest := by
    split at h <;> simp_all
  obtain ⟨rfl, rfl⟩ := hsame
  rw [wholeDigits?, takeDigits_append more hrest hparts]
  split at h <;> simp_all

theorem delimited_fraction? : Delimited fraction? := by
  intro cs digits rest more hrest h
  unfold fraction? at h
  split at h
  · rename_i tail
    rcases hparts : Binary64.takeDigits tail with ⟨found, left⟩
    rw [hparts] at h
    have hsame : found = digits ∧ left = rest := by
      split at h <;> simp_all
    obtain ⟨rfl, rfl⟩ := hsame
    rw [List.cons_append, fraction?, takeDigits_append more hrest hparts]
    split at h <;> simp_all
  · rename_i hpoint
    obtain ⟨rfl, rfl⟩ := Prod.mk.inj (Option.some.inj h)
    obtain ⟨c, tail, rfl⟩ := List.exists_cons_of_ne_nil hrest
    rw [List.cons_append, fraction?]
    simpa using hpoint

theorem takeSign_append {cs : List Char} (h : cs ≠ []) (more : List Char) :
    Binary64.takeSign (cs ++ more) =
      ((Binary64.takeSign cs).1, (Binary64.takeSign cs).2 ++ more) := by
  obtain ⟨c, tail, rfl⟩ := List.exists_cons_of_ne_nil h
  rw [List.cons_append]
  unfold Binary64.takeSign
  split <;> simp_all

theorem delimited_exponent? : Delimited exponent? := by
  intro cs exponent rest more hrest h
  cases cs with
  | nil =>
    obtain ⟨-, rfl⟩ := Prod.mk.inj (Option.some.inj h)
    contradiction
  | cons c tail =>
    rw [List.cons_append]
    unfold exponent? at h ⊢
    by_cases hc : (c == 'e' || c == 'E') = true
    · simp only [hc, if_true] at h ⊢
      rcases hparts : Binary64.takeDigits (Binary64.takeSign tail).2 with ⟨_ | ⟨d, digits⟩, left⟩
      · simp [hparts] at h
      have htail : tail ≠ [] := by
        rintro rfl
        cases hparts
      simp only [hparts, Option.some.injEq, Prod.mk.injEq] at h
      obtain ⟨rfl, rfl⟩ := h
      simp only [takeSign_append htail, takeDigits_append more hrest hparts]
    · simp only [hc, Bool.false_eq_true, if_false, Option.some.injEq, Prod.mk.injEq] at h ⊢
      obtain ⟨rfl, rfl⟩ := h
      exact ⟨rfl, rfl⟩

def unsigned (negative : Bool) (cs : List Char) : Option (Json × List Char) := do
  let (whole, cs) ← wholeDigits? cs
  let (fraction, cs) ← fraction? cs
  let (exponent, cs) ← exponent? cs
  let value ← numberValue? negative whole fraction exponent
  return (value, cs)

theorem number_minus (cs : List Char) : number ('-' :: cs) = unsigned true cs := rfl

theorem number_of_ne {c : Char} (h : c ≠ '-') (cs : List Char) :
    number (c :: cs) = unsigned false (c :: cs) := by
  unfold number
  split
  rename_i heq
  split at heq
  · simp_all
  · obtain ⟨rfl, rfl⟩ := Prod.mk.inj heq
    rfl

theorem unsigned_eq_some {negative : Bool} {cs rest : List Char} {v : Json} :
    unsigned negative cs = some (v, rest) ↔ ∃ whole back fraction back' exponent,
      wholeDigits? cs = some (whole, back) ∧ fraction? back = some (fraction, back') ∧
      exponent? back' = some (exponent, rest) ∧
      numberValue? negative whole fraction exponent = some v := by
  simp only [unsigned, Option.bind_eq_bind, Option.bind_eq_some_iff, Prod.exists, Option.pure_def,
    Option.some.injEq, Prod.mk.injEq]
  constructor
  · rintro ⟨whole, back, hwhole, fraction, back', hfraction, exponent, _, hexponent, v', hv, rfl, rfl⟩
    exact ⟨whole, back, fraction, back', exponent, hwhole, hfraction, hexponent, hv⟩
  · rintro ⟨whole, back, fraction, back', exponent, hwhole, hfraction, hexponent, hv⟩
    exact ⟨whole, back, hwhole, fraction, back', hfraction, exponent, rest, hexponent, v, hv, rfl, rfl⟩

theorem delimited_unsigned (negative : Bool) : Delimited (unsigned negative) := by
  intro cs v rest more hrest h
  obtain ⟨whole, back, fraction, back', exponent, hwhole, hfraction, hexponent, hv⟩ :=
    unsigned_eq_some.mp h
  have hback' : back' ≠ [] := by
    rintro rfl
    obtain ⟨-, rfl⟩ := Prod.mk.inj (Option.some.inj hexponent)
    contradiction
  have hback : back ≠ [] := by
    rintro rfl
    obtain ⟨-, rfl⟩ := Prod.mk.inj (Option.some.inj hfraction)
    contradiction
  exact unsigned_eq_some.mpr ⟨whole, back ++ more, fraction, back' ++ more, exponent,
    delimited_wholeDigits? cs whole back more hback hwhole,
    delimited_fraction? back fraction back' more hback' hfraction,
    delimited_exponent? back' exponent rest more hrest hexponent, hv⟩

theorem delimited_number : Delimited number := by
  intro cs v rest more hrest h
  cases cs with
  | nil => cases h
  | cons c cs =>
    rw [List.cons_append]
    by_cases hc : c = '-'
    · subst hc
      rw [number_minus] at h ⊢
      exact delimited_unsigned true cs v rest more hrest h
    · rw [number_of_ne hc] at h ⊢
      exact delimited_unsigned false (c :: cs) v rest more hrest h

/-- A number starts with a digit or a minus. -/
def startsNumber (c : Char) : Bool := c == '-' || c.isDigit

theorem startsNumber_of_number {c : Char} {cs rest : List Char} {v : Json}
    (h : number (c :: cs) = some (v, rest)) : startsNumber c = true := by
  by_cases hc : c = '-'
  · simp [startsNumber, hc]
  · rw [number_of_ne hc, unsigned_eq_some] at h
    obtain ⟨whole, back, -, -, -, hwhole, -⟩ := h
    by_contra hdigit
    have hnone : Binary64.takeDigits (c :: cs) = ([], c :: cs) := by
      rw [Binary64.takeDigits, List.span_eq_takeWhile_dropWhile]
      simp_all [startsNumber]
    rw [wholeDigits?, hnone] at hwhole
    contradiction

theorem leaf_of_startsNumber {c : Char} (h : startsNumber c = true) (cs : List Char) :
    leaf (c :: cs) = number (c :: cs) := by
  unfold leaf
  split <;> simp_all [startsNumber]

theorem delimited_leaf : Delimited leaf := by
  intro cs v rest more hrest h
  unfold leaf at h
  split at h
  · rename_i tail
    exact (selfDelimiting_stringTail []).map Json.str tail v rest more h
  · cases h
    rfl
  · cases h
    rfl
  · cases h
    rfl
  · obtain _ | ⟨c, cs⟩ := cs
    · contradiction
    rw [List.cons_append, leaf_of_startsNumber (startsNumber_of_number h), ← List.cons_append]
    exact delimited_number (c :: cs) v rest more hrest h

/-! ## Brackets -/

section Brackets

variable {entry : List Char → Option (α × List Char)} {closing : Char}

theorem series_append (h : Delimited entry) {fuel fuel' : Nat} (hfuel : fuel ≤ fuel')
    {cs rest : List Char} {xs : List α} (hseries : series entry closing fuel cs = some (xs, rest))
    (more : List Char) : series entry closing fuel' (cs ++ more) = some (xs, rest ++ more) := by
  induction fuel generalizing fuel' cs xs with
  | zero => cases hseries
  | succ fuel ih =>
    obtain ⟨fuel', rfl⟩ : ∃ n, fuel' = n + 1 := ⟨fuel' - 1, by omega⟩
    rw [series, Option.bind_eq_bind, Option.bind_eq_some_iff] at hseries
    obtain ⟨⟨x, back⟩, hx, hseries⟩ := hseries
    have hback : back ≠ [] := by
      rintro rfl
      cases hseries
    rw [series, h cs x back more hback hx, Option.bind_eq_bind, Option.bind_some]
    simp only at hseries ⊢
    split at hseries
    · rename_i tail hskip
      rw [Option.bind_eq_bind, Option.bind_eq_some_iff] at hseries
      obtain ⟨⟨xs', rest'⟩, hxs, heq⟩ := hseries
      obtain ⟨rfl, rfl⟩ := Prod.mk.inj (Option.some.inj heq)
      simp only [skipSpace_append hskip, ih (Nat.le_of_succ_le_succ hfuel) hxs]
      rfl
    · rename_i c tail hcomma hskip
      rw [skipSpace_append hskip]
      split at hseries
      · rename_i hclosing
        obtain ⟨rfl, rfl⟩ := Prod.mk.inj (Option.some.inj hseries)
        subst hclosing
        simp
      · contradiction
    · contradiction

theorem selfDelimiting_bracketed (h : Delimited entry) :
    SelfDelimiting (bracketed entry closing) := by
  intro cs xs rest more hread
  unfold bracketed at hread
  split at hread
  · rename_i c tail hskip
    simp only [bracketed, skipSpace_append hskip]
    split at hread
    · rename_i hclosing
      obtain ⟨rfl, rfl⟩ := Prod.mk.inj (Option.some.inj hread)
      rw [if_pos hclosing]
    · rename_i hclosing
      rw [if_neg hclosing]
      exact series_append h (by simp) hread more
  · contradiction

end Brackets

theorem delimited_member {value : List Char → Option (Json × List Char)} (h : Delimited value) :
    Delimited (member value) := by
  intro cs field rest more hrest hread
  unfold member at hread
  split at hread
  · rename_i tail hquote
    rw [Option.bind_eq_bind, Option.bind_eq_some_iff] at hread
    obtain ⟨⟨name, back⟩, hname, hread⟩ := hread
    simp only at hread
    split at hread
    · rename_i back' hcolon
      rw [Option.bind_eq_bind, Option.bind_eq_some_iff] at hread
      obtain ⟨⟨v, rest'⟩, hv, heq⟩ := hread
      obtain ⟨rfl, rfl⟩ := Prod.mk.inj (Option.some.inj heq)
      simp only [member, skipSpace_append hquote, selfDelimiting_stringTail [] _ _ _ more hname,
        Option.bind_eq_bind, Option.bind_some, skipSpace_append hcolon, h _ _ _ more hrest hv]
      rfl
    · contradiction
  · contradiction

section Values

variable {depth : Nat} {cs tail rest : List Char} {c : Char} {v : Json}

theorem value_zero (cs : List Char) : value 0 cs = match skipSpace cs with
    | '[' :: _ => none
    | '{' :: _ => none
    | cs => leaf cs := rfl

theorem value_succ (depth : Nat) (cs : List Char) :
    value (depth + 1) cs = match skipSpace cs with
      | '[' :: cs => (bracketed (value depth) ']' cs).map fun (items, rest) => (.arr items, rest)
      | '{' :: cs =>
        (bracketed (member (value depth)) '}' cs).map fun (fields, rest) => (.obj fields, rest)
      | cs => leaf cs := rfl

theorem value_array (h : skipSpace cs = '[' :: tail) : value (depth + 1) cs =
    (bracketed (value depth) ']' tail).map fun (items, rest) => (.arr items, rest) := by
  rw [value_succ, h]
  rfl

theorem value_object (h : skipSpace cs = '{' :: tail) : value (depth + 1) cs =
    (bracketed (member (value depth)) '}' tail).map fun (fields, rest) => (.obj fields, rest) := by
  rw [value_succ, h]
  rfl

theorem value_leaf (h : skipSpace cs = c :: tail) (harray : c ≠ '[') (hobject : c ≠ '{') :
    value depth cs = leaf (c :: tail) := by
  cases depth <;> simp [value_zero, value_succ, h, harray, hobject]

theorem exists_skipSpace_of_value (h : value depth cs = some (v, rest)) :
    ∃ c tail, skipSpace cs = c :: tail := by
  refine List.exists_cons_of_ne_nil fun hskip => ?_
  have hnone : value depth cs = none := by
    cases depth with
    | zero =>
      rw [value_zero, hskip]
      rfl
    | succ depth =>
      rw [value_succ, hskip]
      rfl
  rw [hnone] at h
  contradiction

/-- No bracket is read where none may be nested. -/
theorem value_zero_of_bracket (h : skipSpace cs = c :: tail) (hc : c = '[' ∨ c = '{') :
    value 0 cs = none := by
  rcases hc with rfl | rfl
  all_goals
    rw [value_zero, h]
    rfl

theorem value_succ_append (hvalue : Delimited (value depth)) (hskip : skipSpace cs = c :: tail)
    (hc : c = '[' ∨ c = '{') (h : value (depth + 1) cs = some (v, rest)) (more : List Char) :
    value (depth + 1) (cs ++ more) = some (v, rest ++ more) := by
  rcases hc with rfl | rfl
  · rw [value_array hskip] at h
    rw [value_array (skipSpace_append hskip more)]
    exact (selfDelimiting_bracketed hvalue).map Json.arr tail v rest more h
  · rw [value_object hskip] at h
    rw [value_object (skipSpace_append hskip more)]
    exact (selfDelimiting_bracketed (delimited_member hvalue)).map Json.obj tail v rest more h

theorem value_leaf_append (hskip : skipSpace cs = c :: tail) (hc : ¬ (c = '[' ∨ c = '{'))
    (hrest : rest ≠ []) (h : value depth cs = some (v, rest)) (more : List Char) :
    value depth (cs ++ more) = some (v, rest ++ more) := by
  obtain ⟨harray, hobject⟩ := not_or.mp hc
  rw [value_leaf hskip harray hobject] at h
  rw [value_leaf (skipSpace_append hskip more) harray hobject, ← List.cons_append]
  exact delimited_leaf (c :: tail) v rest more hrest h

end Values

theorem delimited_value (depth : Nat) : Delimited (value depth) := by
  induction depth with
  | zero =>
    intro cs v rest more hrest h
    obtain ⟨c, tail, hskip⟩ := exists_skipSpace_of_value h
    refine value_leaf_append hskip (fun hc => ?_) hrest h more
    rw [value_zero_of_bracket hskip hc] at h
    contradiction
  | succ depth ih =>
    intro cs v rest more hrest h
    obtain ⟨c, tail, hskip⟩ := exists_skipSpace_of_value h
    by_cases hc : c = '[' ∨ c = '{'
    · exact value_succ_append ih hskip hc h more
    · exact value_leaf_append hskip hc hrest h more

/-- An array or an object is read off the front of any text, and what is behind it is left. -/
theorem value_append {depth : Nat} {cs tail rest : List Char} {c : Char} {v : Json}
    (hskip : skipSpace cs = c :: tail) (hc : c = '[' ∨ c = '{')
    (h : value depth cs = some (v, rest)) (more : List Char) :
    value depth (cs ++ more) = some (v, rest ++ more) := by
  cases depth with
  | zero =>
    rw [value_zero_of_bracket hskip hc] at h
    contradiction
  | succ depth => exact value_succ_append (delimited_value depth) hskip hc h more

end ApiAtlas.Json
