import ApiAtlas.Naming.Scope
import ApiAtlas.Proofs.Binary64.Exact
import ApiAtlas.Rendering.Value
import Mathlib.Algebra.Order.Floor.Semifield
import Mathlib.Data.Rat.Floor

/-!
# Durations

A number of seconds is shown as days and a time of day. The total is cut into four parts that make
it again, and the text tells all of them: it is read back as the same duration, so that different
totals have different texts.
-/

namespace ApiAtlas

/-! ## Whole seconds -/

namespace Binary64

def value? : Binary64 → Option ℚ
  | .finite negative m e => some (if negative then -(m * 2 ^ e) else m * 2 ^ e)
  | _ => none

/-- What counts of a finite number is its whole part, between zero and the largest word. -/
theorem toUnsignedWord_of_value? {x : Binary64} {q : ℚ} (h : x.value? = some q) :
    x.toUnsignedWord = min ⌊q⌋₊ (2 ^ 64 - 1) := by
  cases x with
  | nan => simp [value?] at h
  | infinite negative => simp [value?] at h
  | finite negative m e =>
    obtain rfl := Option.some.inj h
    have hvalue : (0 : ℚ) ≤ m * 2 ^ e := by positivity
    have hwhole : ⌊(m * 2 ^ e : ℚ)⌋₊ = (ratio m e).1 / (ratio m e).2 := by
      rw [← ratio_fst_div_snd, Nat.floor_div_eq_div]
    cases negative with
    | true =>
      have hfloor : ⌊-(m * 2 ^ e : ℚ)⌋₊ = 0 := Nat.floor_of_nonpos (neg_nonpos.mpr hvalue)
      simp only [if_true, hfloor, toUnsignedWord, truncateInto]
      omega
    | false =>
      simp only [Bool.false_eq_true, if_false, hwhole, toUnsignedWord, truncateInto]
      omega

end Binary64

namespace Rendering

/-! ## Durations and their totals -/

/-- A number of days and a time of day. -/
structure Duration where
  days : Nat
  hours : Nat
  minutes : Nat
  seconds : Nat
  hours_lt : hours < 24
  minutes_lt : minutes < 60
  seconds_lt : seconds < 60

namespace Duration

def total (d : Duration) : Nat := d.days * 86400 + d.hours * 3600 + d.minutes * 60 + d.seconds

def ofTotal (t : Nat) : Duration where
  days := t / 86400
  hours := t % 86400 / 3600
  minutes := t % 3600 / 60
  seconds := t % 60
  hours_lt := by omega
  minutes_lt := by omega
  seconds_lt := by omega

@[simp] theorem total_ofTotal (t : Nat) : (ofTotal t).total = t := by
  simp only [total, ofTotal]
  omega

theorem days_eq_zero_iff (d : Duration) : d.days = 0 ↔ d.total < 86400 := by
  have hhours := d.hours_lt
  have hminutes := d.minutes_lt
  have hseconds := d.seconds_lt
  simp only [total]
  omega

/-! ## Texts of durations -/

/-- Whether a text is a number in exactly two digits. -/
structure TwoDigits (n : Nat) (text : String) : Prop where
  length_eq : text.toList.length = 2
  isDigit : ∀ c ∈ text.toList, c.isDigit = true
  value_eq : Nat.ofDigitChars 10 text.toList 0 = n

theorem twoDigits_padded {n : Nat} (h : n < 100) : TwoDigits n (padded 2 n) := by
  obtain ⟨hlength, hdigits, hvalue⟩ := padded_two n h
  exact ⟨hlength, List.all_eq_true.mp hdigits, hvalue⟩

/-- Whether a text shows a duration: its time of day in fields of two digits, and from a day on the
number of days in front. -/
inductive Shown (d : Duration) : String → Prop
  | clock {hours minutes seconds : String} : d.total < 86400 → TwoDigits d.hours hours →
      TwoDigits d.minutes minutes → TwoDigits d.seconds seconds →
      Shown d (hours ++ ":" ++ minutes ++ ":" ++ seconds)
  | withDays {hours minutes seconds : String} : 86400 ≤ d.total → TwoDigits d.hours hours →
      TwoDigits d.minutes minutes → TwoDigits d.seconds seconds →
      Shown d (toString d.days ++ "d " ++ (hours ++ ":" ++ minutes ++ ":" ++ seconds))

theorem shown_clockText (t : Nat) : Shown (ofTotal t) (clockText t) := by
  have hhours := twoDigits_padded ((ofTotal t).hours_lt.trans (by decide : 24 < 100))
  have hminutes := twoDigits_padded ((ofTotal t).minutes_lt.trans (by decide : 60 < 100))
  have hseconds := twoDigits_padded ((ofTotal t).seconds_lt.trans (by decide : 60 < 100))
  have hdays := (ofTotal t).days_eq_zero_iff
  rw [total_ofTotal] at hdays
  simp only [clockText]
  split
  · rename_i hpos
    refine .withDays ?_ hhours hminutes hseconds
    rw [total_ofTotal, ← not_lt, ← hdays]
    exact hpos.ne'
  · rename_i hzero
    refine .clock ?_ hhours hminutes hseconds
    rw [total_ofTotal, ← hdays]
    exact Nat.eq_zero_of_not_pos hzero

/-! ## Reading durations -/

def pair? (a b : Char) : Option Nat :=
  if a.isDigit && b.isDigit then some (Nat.ofDigitChars 10 [a, b] 0) else none

/-- Reads a time of day behind a number of days. -/
def ofClock? (days : Nat) : List Char → Option Duration
  | [h, h', ':', m, m', ':', s, s'] => do
    let hours ← pair? h h'
    let minutes ← pair? m m'
    let seconds ← pair? s s'
    if hlt : hours < 24 ∧ minutes < 60 ∧ seconds < 60 then
      some ⟨days, hours, minutes, seconds, hlt.1, hlt.2.1, hlt.2.2⟩
    else none
  | _ => none

/-- Reads a duration: a time of day alone, or behind a number of days from one on. -/
def ofText? (text : String) : Option Duration :=
  let (digits, rest) := Binary64.takeDigits text.toList
  match rest with
  | 'd' :: ' ' :: clock =>
    let days := Nat.ofDigitChars 10 digits 0
    if 0 < days then ofClock? days clock else none
  | _ => ofClock? 0 text.toList

theorem TwoDigits.exists_pair {n : Nat} {text : String} (h : TwoDigits n text) :
    ∃ a b, text.toList = [a, b] ∧ pair? a b = some n := by
  obtain ⟨a, b, hlist⟩ := List.length_eq_two.mp h.length_eq
  have hdigits := h.isDigit
  have hvalue := h.value_eq
  rw [hlist] at hdigits hvalue
  have ha : a.isDigit = true := hdigits a (by simp)
  have hb : b.isDigit = true := hdigits b (by simp)
  exact ⟨a, b, hlist, by simp [pair?, ha, hb, hvalue]⟩

theorem ofClock?_fields (d : Duration) {hours minutes seconds : String}
    (hh : TwoDigits d.hours hours) (hm : TwoDigits d.minutes minutes)
    (hs : TwoDigits d.seconds seconds) :
    ofClock? d.days (hours ++ ":" ++ minutes ++ ":" ++ seconds).toList = some d := by
  obtain ⟨h, h', hhours, hh⟩ := hh.exists_pair
  obtain ⟨m, m', hminutes, hm⟩ := hm.exists_pair
  obtain ⟨s, s', hseconds, hs⟩ := hs.exists_pair
  simp [hhours, hminutes, hseconds, ofClock?, hh, hm, hs, d.hours_lt, d.minutes_lt, d.seconds_lt]

theorem takeDigits_front {digits rest : List Char} {c : Char}
    (hdigits : ∀ d ∈ digits, d.isDigit = true) (hc : c.isDigit = false) :
    Binary64.takeDigits (digits ++ c :: rest) = (digits, c :: rest) := by
  rw [Binary64.takeDigits, List.span_eq_takeWhile_dropWhile, List.takeWhile_append_of_pos hdigits,
    List.dropWhile_append_of_pos hdigits]
  simp [hc]

/-- A text that shows a duration is read as it. -/
theorem Shown.ofText?_eq {d : Duration} {text : String} (h : Shown d text) :
    ofText? text = some d := by
  cases h with
  | @clock hours minutes seconds hsmall hh hm hs =>
    have hfront : Binary64.takeDigits (hours ++ ":" ++ minutes ++ ":" ++ seconds).toList =
        (hours.toList, ':' :: (minutes ++ ":" ++ seconds).toList) := by
      rw [← takeDigits_front hh.isDigit (by decide : ':'.isDigit = false)]
      simp
    have hclock := d.ofClock?_fields hh hm hs
    rw [d.days_eq_zero_iff.mpr hsmall] at hclock
    simp only [ofText?, hfront, hclock]
    rfl
  | @withDays hours minutes seconds hlarge hh hm hs =>
    have hfront : Binary64.takeDigits
        (toString d.days ++ "d " ++ (hours ++ ":" ++ minutes ++ ":" ++ seconds)).toList =
        ((toString d.days).toList,
          'd' :: ' ' :: (hours ++ ":" ++ minutes ++ ":" ++ seconds).toList) := by
      rw [← takeDigits_front Naming.isDigit_of_mem_toString (by decide : 'd'.isDigit = false)]
      simp
    have hpos : 0 < d.days := by
      rw [Nat.pos_iff_ne_zero, Ne, d.days_eq_zero_iff]
      exact not_lt.mpr hlarge
    have hdays : Nat.ofDigitChars 10 (toString d.days).toList 0 = d.days := by simp
    simp only [ofText?, hfront, hdays, hpos, if_true, d.ofClock?_fields hh hm hs]

end Duration

/-! ## Texts of numbers of seconds -/

theorem valueText_eq_clockText {v : Json} {x : Binary64} (hx : v.number? = some x) :
    valueText .duration v = clockText x.toUnsignedWord := by
  simp [valueText, hx, numberText?]

theorem clockText_injective {t t' : Nat} (h : clockText t = clockText t') : t = t' := by
  have hread := (Duration.shown_clockText t).ofText?_eq
  rw [h, (Duration.shown_clockText t').ofText?_eq] at hread
  rw [← Duration.total_ofTotal t, ← Option.some.inj hread, Duration.total_ofTotal]

/-- The text of a number of seconds shows a duration of as many seconds as count of the number: its
whole part, at least zero and at most the largest word. The hours, minutes and seconds are in the
bounds of a time of day and have two digits each, and there are days in front exactly from one day
on. The text is read back as this duration, and numbers of which different totals count have
different texts. -/
theorem valueText_duration {v : Json} {x : Binary64} (hx : v.number? = some x) :
    ∃ d : Duration, d.total = x.toUnsignedWord ∧
      (∀ q, x.value? = some q → d.total = min ⌊q⌋₊ (2 ^ 64 - 1)) ∧
      d.Shown (valueText .duration v) ∧ Duration.ofText? (valueText .duration v) = some d ∧
      ∀ w y, w.number? = some y → valueText .duration w = valueText .duration v →
        y.toUnsignedWord = x.toUnsignedWord := by
  have htotal := Duration.total_ofTotal x.toUnsignedWord
  have hshown := Duration.shown_clockText x.toUnsignedWord
  rw [valueText_eq_clockText hx]
  refine ⟨.ofTotal x.toUnsignedWord, htotal, fun q hq => ?_, hshown, hshown.ofText?_eq,
    fun w y hy htext => ?_⟩
  · rw [htotal]
    exact Binary64.toUnsignedWord_of_value? hq
  · rw [valueText_eq_clockText hy] at htext
    exact clockText_injective htext

/-- A day, two hours, three minutes and four seconds. -/
theorem valueText_duration_93784 :
    (Json.int 93784).number? = some (.ofInt 93784) ∧ ∃ d : Duration,
      d.total = 93784 ∧ d.Shown "1d 02:03:04" ∧ Duration.ofText? "1d 02:03:04" = some d := by
  obtain ⟨htext, hword⟩ : valueText .duration (.int 93784) = "1d 02:03:04" ∧
      (Binary64.ofInt 93784).toUnsignedWord = 93784 := by decide +kernel
  obtain ⟨d, htotal, -, hshown, hread, -⟩ := valueText_duration (v := .int 93784) rfl
  rw [htext] at hshown hread
  exact ⟨rfl, d, htotal.trans hword, hshown, hread⟩

end Rendering

end ApiAtlas
