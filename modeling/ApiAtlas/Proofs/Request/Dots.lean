import ApiAtlas.Proofs.Request.Form
import ApiAtlas.Proofs.Resources.Segments
import ApiAtlas.Proofs.Text.Ascii
import ApiAtlas.Request.Url
import Mathlib.Data.List.Sections

/-!
# What segments say

A segment of a URL says the bytes that are left when its escapes are read. Escaping the characters
of a path does not change what is said. Resolving dots loses what they say and keeps the rest, so
that nothing is lost exactly where there are no dots.
-/

namespace ApiAtlas.Request

/-! ## Bytes -/

def segmentBytes (segment : String) : List UInt8 := percentBytes segment.toList

def textBytes (text : String) : List UInt8 := text.toList.flatMap String.utf8EncodeChar

theorem textBytes_injective {a b : String} (h : textBytes a = textBytes b) : a = b := by
  have hread := fromUTF8?_encoded a.toList
  have hread' := fromUTF8?_encoded b.toList
  rw [← textBytes, h, textBytes, hread', Option.some.injEq, String.ofList_toList,
    String.ofList_toList] at hread
  exact hread.symm

theorem percentBytes_ne_nil {cs : List Char} (h : cs ≠ []) : percentBytes cs ≠ [] := by
  fun_cases percentBytes cs with
  | case1 => contradiction
  | case2 => simp
  | case3 => simp
  | case4 => simp

theorem length_percentBytes_le (cs : List Char) :
    (percentBytes cs).length ≤ (cs.flatMap String.utf8EncodeChar).length := by
  fun_induction percentBytes cs with
  | case1 => exact Nat.le_refl 0
  | case2 a b cs n hn ih =>
    have hmark : (String.utf8EncodeChar '%').length = 1 := by decide
    simp only [List.flatMap_cons, List.length_append, List.length_cons, hmark]
    omega
  | case3 a b cs hn ih =>
    rw [List.flatMap_cons, List.length_append, List.length_append]
    omega
  | case4 c cs h ih =>
    rw [List.flatMap_cons, List.length_append, List.length_append]
    omega

/-! ## Escapes in a path -/

/-- Whether a character is a digit of base sixteen. -/
def isHexDigit (c : Char) : Bool := (Text.hexValue? c).isSome

theorem hexNumber?_eq_none {a b : Char} :
    Text.hexNumber? [a, b] = none ↔ isHexDigit a = false ∨ isHexDigit b = false := by
  rw [Text.hexNumber?, isHexDigit, isHexDigit, List.mapM_cons, List.mapM_cons, List.mapM_nil]
  cases Text.hexValue? a <;> cases Text.hexValue? b <;> simp

theorem isPathChar_of_isHexDigit {c : Char} (h : isHexDigit c = true) : isPathChar c = true := by
  have hascii : c.toNat < 128 := by
    refine Classical.byContradiction fun hlarge => ?_
    have hle : ∀ d : Char, d.toNat < 128 → ¬ c ≤ d := by
      intro d hd hcd
      exact hlarge (Nat.lt_of_le_of_lt hcd hd)
    have hnone : Text.hexValue? c = none := by
      simp [Text.hexValue?, hle '9' (by decide), hle 'f' (by decide), hle 'F' (by decide)]
    simp [isHexDigit, hnone] at h
  exact Text.forall_ascii (P := fun c => isHexDigit c = true → isPathChar c = true)
    (by decide +kernel) hascii h

/-- A percent sign is read as it is if no escape follows. -/
theorem percentBytes_percent {cs : List Char}
    (h : ∀ a b rest, cs = a :: b :: rest → isHexDigit a = false ∨ isHexDigit b = false) :
    percentBytes ('%' :: cs) = String.utf8EncodeChar '%' ++ percentBytes cs := by
  match cs with
  | [] => rfl
  | [a] => rfl
  | a :: b :: rest => rw [percentBytes, hexNumber?_eq_none.mpr (h a b rest rfl)]

/-- What is written for a character in a path is the character or begins with a percent sign. -/
theorem percentChar_cases (c : Char) : percentChar isPathChar c = [c] ∨
    isPathChar c = false ∧ ∃ rest, percentChar isPathChar c = '%' :: rest := by
  cases hc : isPathChar c with
  | true => exact .inl (by rw [percentChar, if_pos hc])
  | false =>
    obtain ⟨b, bytes, hbytes⟩ := List.exists_cons_of_ne_nil (String.utf8EncodeChar_ne_nil (c := c))
    have hescape : percentChar isPathChar c = escapeByte b ++ bytes.flatMap escapeByte := by
      rw [percentChar, hc, if_neg Bool.false_ne_true, hbytes, List.flatMap_cons]
    exact .inr ⟨rfl, _, hescape⟩

theorem isHexDigit_head {c d : Char} {cs rest : List Char} (hc : isHexDigit c = false)
    (h : (c :: cs).flatMap (percentChar isPathChar) = d :: rest) : isHexDigit d = false := by
  rw [List.flatMap_cons] at h
  rcases percentChar_cases c with hchar | ⟨-, escape, hchar⟩
  · rw [hchar] at h
    exact (List.cons.inj h).1 ▸ hc
  · rw [hchar] at h
    rw [← (List.cons.inj h).1]
    decide

/-- Escaping the characters of a path does not change what it says. -/
theorem percentBytes_pathChars (cs : List Char) :
    percentBytes (cs.flatMap (percentChar isPathChar)) = percentBytes cs := by
  have hplain : ∀ c, isPathChar c = true → percentChar isPathChar c = [c] := fun c hc => by
    rw [percentChar, if_pos hc]
  -- An escape stays as it is, since its characters are plain. A percent sign that begins none does
  -- not begin one either when escapes are written behind it.
  fun_induction percentBytes cs with
  | case1 => rfl
  | case2 a b cs n hn ih =>
    have hdigits : isHexDigit a = true ∧ isHexDigit b = true := by
      rw [← Bool.not_eq_false, ← Bool.not_eq_false, ← not_or, ← hexNumber?_eq_none, hn]
      exact Option.some_ne_none n
    rw [List.flatMap_cons, List.flatMap_cons, List.flatMap_cons, hplain '%' (by decide),
      hplain a (isPathChar_of_isHexDigit hdigits.1), hplain b (isPathChar_of_isHexDigit hdigits.2)]
    simp only [List.cons_append, List.nil_append, percentBytes, hn, ih]
  | case3 a b cs hn ih =>
    rw [List.flatMap_cons, hplain '%' (by decide), List.singleton_append, percentBytes_percent, ih]
    intro c d rest hcs
    rcases hexNumber?_eq_none.mp hn with ha | hb
    · exact .inl (isHexDigit_head ha hcs)
    rw [List.flatMap_cons] at hcs
    rcases percentChar_cases a with hchar | ⟨-, escape, hchar⟩
    · rw [hchar] at hcs
      exact .inr (isHexDigit_head hb (List.cons.inj hcs).2)
    · rw [hchar] at hcs
      rw [← (List.cons.inj hcs).1]
      exact .inl (by decide)
  | case4 c cs h ih =>
    rw [List.flatMap_cons]
    by_cases hc : c = '%'
    · rw [hc, hplain '%' (by decide), List.singleton_append, percentBytes_percent, ih]
      intro d e rest hcs
      rcases cs with _ | ⟨a, _ | ⟨b, cs⟩⟩
      · simp at hcs
      · rw [List.flatMap_singleton] at hcs
        rcases percentChar_cases a with hchar | ⟨-, escape, hchar⟩
        · simp [hchar] at hcs
        · rw [hchar] at hcs
          rw [← (List.cons.inj hcs).1]
          exact .inl (by decide)
      · exact (h a b cs hc rfl).elim
    · cases hpath : isPathChar c with
      | true => rw [hplain c hpath, List.singleton_append, percentBytes_cons hc, ih]
      | false =>
        rw [percentChar, hpath, if_neg Bool.false_ne_true, percentBytes_escapeBytes, ih]

theorem segmentBytes_percentText (piece : List Char) :
    segmentBytes (percentText isPathChar piece) = percentBytes piece := by
  rw [segmentBytes, percentText, String.toList_ofList, percentBytes_pathChars]

/-! ## Dots -/

def isDots (segment : String) : Bool := isUp segment || isHere segment

/-- The characters that are read as one of the characters that dots are written with. -/
def caseForms (d : Char) : List Char := if d == 'e' then ['e', 'E'] else [d]

theorem mem_caseForms {c d : Char} (hd : d ∈ ".%2e".toList) (h : c.toLower = d) :
    c ∈ caseForms d := by
  by_cases hc : c.toNat < 128
  · have hforms : (".%2e".toList.all fun d => decide (c.toLower = d → c ∈ caseForms d)) = true :=
      Text.forall_ascii (P := fun c =>
        (".%2e".toList.all fun d => decide (c.toLower = d → c ∈ caseForms d)) = true)
        (by decide +kernel) hc
    exact of_decide_eq_true (List.all_eq_true.mp hforms d hd) h
  · have hsame : c.toLower = c := by
      refine dif_neg ?_
      rintro ⟨-, hle⟩
      exact hc (Nat.lt_of_le_of_lt hle (by decide))
    rw [hsame] at h
    rw [h, caseForms]
    split <;> simp_all

/-- A text of dots is written in few ways. -/
theorem toList_mem_sections {segment text : String} (htext : text.toList ⊆ ".%2e".toList)
    (h : segment.toLower = text) : segment.toList ∈ (text.toList.map caseForms).sections := by
  have hlist : segment.toList.map Char.toLower = text.toList.map id := by
    rw [List.map_id, ← h]
    exact String.toList_map.symm
  rw [List.mem_sections, List.forall₂_map_right_iff]
  have heach := (ListLaws.forall₂_of_map_eq hlist).flip
  have hboth := (List.forall₂_and_left _ _).mpr ⟨fun d hd => htext hd, heach⟩
  exact (hboth.imp fun d c hdc => mem_caseForms hdc.1 hdc.2).flip

theorem segmentBytes_of_isHere {segment : String} (h : isHere segment = true) :
    segmentBytes segment = textBytes "." := by
  have hread : ∀ text ∈ [".", "%2e"], text.toList ⊆ ".%2e".toList ∧
      ∀ cs ∈ (text.toList.map caseForms).sections, percentBytes cs = textBytes "." := by decide
  have hmem : segment.toLower ∈ [".", "%2e"] := by simpa [isHere] using h
  obtain ⟨htext, hbytes⟩ := hread _ hmem
  exact hbytes _ (toList_mem_sections htext rfl)

theorem segmentBytes_of_isUp {segment : String} (h : isUp segment = true) :
    segmentBytes segment = textBytes ".." := by
  have hread : ∀ text ∈ ["..", ".%2e", "%2e.", "%2e%2e"],
      text.toList ⊆ ".%2e".toList ∧
        ∀ cs ∈ (text.toList.map caseForms).sections, percentBytes cs = textBytes ".." := by decide
  have hmem : segment.toLower ∈ ["..", ".%2e", "%2e.", "%2e%2e"] := by simpa [isUp] using h
  obtain ⟨htext, hbytes⟩ := hread _ hmem
  exact hbytes _ (toList_mem_sections htext rfl)

/-- Behind its escapes, a segment of dots is one or two points. -/
theorem textBytes_of_isDots {segment text : String} (hdots : isDots segment = true)
    (h : segmentBytes segment = textBytes text) : text = "." ∨ text = ".." := by
  rcases Bool.or_eq_true_iff.mp hdots with hup | hhere
  · rw [segmentBytes_of_isUp hup] at h
    exact .inr (textBytes_injective h.symm)
  · rw [segmentBytes_of_isHere hhere] at h
    exact .inl (textBytes_injective h.symm)

/-- The segments done behind a segment, which come last first. -/
def dotStep (isLast : Bool) (done : List String) (segment : String) : List String :=
  if isUp segment then (if isLast then "" :: leave done else leave done)
  else if isHere segment then (if isLast then "" :: done else done)
  else segment :: done

theorem resolveDots_cons (done : List String) (segment : String) (rest : List String) :
    resolveDots done (segment :: rest) = resolveDots (dotStep rest.isEmpty done segment) rest := by
  rw [resolveDots, dotStep]
  split
  · rfl
  split <;> rfl

theorem dotStep_of_plain {segment : String} (h : isDots segment = false) (isLast : Bool)
    (done : List String) : dotStep isLast done segment = segment :: done := by
  obtain ⟨hup, hhere⟩ := Bool.or_eq_false_iff.mp h
  simp [dotStep, hup, hhere]

theorem resolveDots_of_plain {done segments : List String}
    (h : ∀ s ∈ segments, isDots s = false) :
    resolveDots done segments = done.reverse ++ segments := by
  induction segments generalizing done with
  | nil => rw [resolveDots, List.append_nil]
  | cons segment rest ih =>
    obtain ⟨hsegment, hrest⟩ := List.forall_mem_cons.mp h
    rw [resolveDots_cons, dotStep_of_plain hsegment, ih hrest, List.reverse_cons,
      List.append_assoc, List.singleton_append]

/-- Segments in front of others are done with before these are looked at. -/
theorem exists_done (done front : List String) :
    ∃ after, ∀ segment rest,
      resolveDots done (front ++ segment :: rest) = resolveDots after (segment :: rest) := by
  induction front generalizing done with
  | nil => exact ⟨done, fun _ _ => rfl⟩
  | cons first front ih =>
    obtain ⟨after, hafter⟩ := ih (dotStep false done first)
    refine ⟨after, fun segment rest => ?_⟩
    have hlast : (front ++ segment :: rest).isEmpty = false := by simp
    rw [List.cons_append, resolveDots_cons, hlast, hafter]

theorem mem_of_mem_leave {done : List String} {s : String} (h : s ∈ leave done) : s ∈ done := by
  cases done with
  | nil => exact h
  | cons segment rest =>
    rw [leave] at h
    split at h
    · exact h
    · exact List.mem_cons_of_mem segment h

theorem mem_dotStep {isLast : Bool} {done : List String} {segment s : String}
    (h : s ∈ dotStep isLast done segment) : s ∈ done ∨ s = segment ∨ s = "" := by
  have hended : ∀ done, s ∈ (if isLast then "" :: done else done) → s ∈ done ∨ s = "" := by
    intro done h
    split at h
    · exact (List.mem_cons.mp h).symm
    · exact .inl h
  rw [dotStep] at h
  split at h
  · exact (hended _ h).imp mem_of_mem_leave .inr
  split at h
  · exact (hended _ h).imp_right .inr
  · exact (List.mem_cons.mp h).symm.imp_right .inl

theorem mem_resolveDots {done segments : List String} {s : String}
    (h : s ∈ resolveDots done segments) : s ∈ done ∨ s ∈ segments ∨ s = "" := by
  induction segments generalizing done with
  | nil => exact .inl (by simpa [resolveDots] using h)
  | cons segment rest ih =>
    rw [resolveDots_cons] at h
    rcases ih h with h | h | h
    · rcases mem_dotStep h with h | h | h
      · exact .inl h
      · exact .inr (.inl (h ▸ List.mem_cons_self))
      · exact .inr (.inr h)
    · exact .inr (.inl (List.mem_cons_of_mem segment h))
    · exact .inr (.inr h)

/-! ## What is lost -/

def bytesSaid (segments : List String) : Nat := (segments.flatMap segmentBytes).length

@[simp] theorem bytesSaid_nil : bytesSaid [] = 0 := rfl

@[simp] theorem bytesSaid_cons (segment : String) (rest : List String) :
    bytesSaid (segment :: rest) = (segmentBytes segment).length + bytesSaid rest := by
  rw [bytesSaid, List.flatMap_cons, List.length_append]
  rfl

@[simp] theorem bytesSaid_append (front back : List String) :
    bytesSaid (front ++ back) = bytesSaid front + bytesSaid back := by
  rw [bytesSaid, List.flatMap_append, List.length_append]
  rfl

@[simp] theorem bytesSaid_reverse (segments : List String) :
    bytesSaid segments.reverse = bytesSaid segments := by
  induction segments with
  | nil => rfl
  | cons segment rest ih =>
    rw [List.reverse_cons, bytesSaid_append, ih, bytesSaid_cons, bytesSaid_cons, bytesSaid_nil]
    omega

theorem bytesSaid_leave_le (done : List String) : bytesSaid (leave done) ≤ bytesSaid done := by
  cases done with
  | nil => exact Nat.le_refl 0
  | cons segment rest =>
    rw [leave]
    split
    · exact Nat.le_refl _
    · rw [bytesSaid_cons]
      omega

theorem bytesSaid_dotStep_of_dots {segment : String} (h : isDots segment = true) (isLast : Bool)
    (done : List String) : bytesSaid (dotStep isLast done segment) ≤ bytesSaid done := by
  have hended : ∀ done, bytesSaid (if isLast then "" :: done else done) = bytesSaid done := by
    intro done
    split <;> simp [segmentBytes, percentBytes]
  rw [dotStep]
  split
  · rw [hended]
    exact bytesSaid_leave_le done
  · rename_i hup
    have hhere : isHere segment = true := by simpa [isDots, hup] using h
    rw [if_pos hhere]
    exact Nat.le_of_eq (hended done)

/-- Resolving dots adds nothing to what is said. -/
theorem bytesSaid_resolveDots_le (done segments : List String) :
    bytesSaid (resolveDots done segments) ≤ bytesSaid done + bytesSaid segments := by
  induction segments generalizing done with
  | nil => simp [resolveDots]
  | cons segment rest ih =>
    have hrest := ih (dotStep rest.isEmpty done segment)
    rw [resolveDots_cons, bytesSaid_cons]
    cases hsegment : isDots segment with
    | true =>
      have hstep := bytesSaid_dotStep_of_dots hsegment rest.isEmpty done
      omega
    | false =>
      rw [dotStep_of_plain hsegment, bytesSaid_cons] at hrest
      rw [dotStep_of_plain hsegment]
      omega

theorem segmentBytes_pos_of_isDots {segment : String} (h : isDots segment = true) :
    0 < (segmentBytes segment).length := by
  rcases Bool.or_eq_true_iff.mp h with h | h
  · rw [segmentBytes_of_isUp h]
    decide
  · rw [segmentBytes_of_isHere h]
    decide

/-- What dots say is lost. -/
theorem bytesSaid_resolveDots_lt {done segments : List String} {dots : String}
    (hmem : dots ∈ segments) (hdots : isDots dots = true) :
    bytesSaid (resolveDots done segments) < bytesSaid done + bytesSaid segments := by
  induction segments generalizing done with
  | nil => contradiction
  | cons segment rest ih =>
    rw [resolveDots_cons, bytesSaid_cons]
    cases hsegment : isDots segment with
    | true =>
      have hstep := bytesSaid_dotStep_of_dots hsegment rest.isEmpty done
      have hrest := bytesSaid_resolveDots_le (dotStep rest.isEmpty done segment) rest
      have hsaid := segmentBytes_pos_of_isDots hsegment
      omega
    | false =>
      have hne : dots ≠ segment := by
        rintro rfl
        rw [hdots] at hsegment
        contradiction
      have hrest : bytesSaid (resolveDots (segment :: done) rest) <
          bytesSaid (segment :: done) + bytesSaid rest :=
        ih ((List.mem_cons.mp hmem).resolve_left hne)
      rw [bytesSaid_cons] at hrest
      rw [dotStep_of_plain hsegment]
      omega

/-- Segments are added as they are, or something that they say is lost. -/
theorem eq_of_resolveDots {done segments added : List String}
    (h : resolveDots done segments = done.reverse ++ added)
    (hle : bytesSaid segments ≤ bytesSaid added) :
    (∀ s ∈ segments, isDots s = false) ∧ added = segments := by
  have hplain : ∀ s ∈ segments, isDots s = false := by
    intro s hs
    refine Bool.eq_false_iff.mpr fun hdots => ?_
    have hlost : bytesSaid (resolveDots done segments) < bytesSaid done + bytesSaid segments :=
      bytesSaid_resolveDots_lt hs hdots
    rw [h, bytesSaid_append, bytesSaid_reverse] at hlost
    omega
  rw [resolveDots_of_plain hplain] at h
  exact ⟨hplain, (List.append_cancel_left h).symm⟩

end ApiAtlas.Request
