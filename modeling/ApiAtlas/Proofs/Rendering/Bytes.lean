import ApiAtlas.Naming.Scope
import ApiAtlas.Proofs.Binary64.Exact
import ApiAtlas.Rendering.Value

/-!
# Numbers of bytes

The unit of a number of bytes is the largest power of 1024 up to it, and the mantissa is rounded to
hundredths behind that. A mantissa just below 1024 can be rounded up to 1024.00 then, where the next
unit would be due.
-/

namespace ApiAtlas

open Binary64 Rendering

/-! ## Texts with a fixed number of places -/

namespace Rendering

def hundredthsText (h : Nat) : String := toString (h / 100) ++ "." ++ padded 2 (h % 100)

end Rendering

theorem Binary64.HasValue.fixedText {x : Binary64} {num den : Nat} (hden : 0 < den)
    (h : HasValue x (num / den)) :
    x.fixedText 2 = hundredthsText (roundQuotient (num * 100) den) := by
  obtain ⟨m, e, rfl, hv⟩ := h
  have hpos : (0 : ℚ) < (ratio m e).2 := by exact_mod_cast ratio_snd_pos m e
  have hden' : (0 : ℚ) < den := by exact_mod_cast hden
  have hround : roundQuotient ((ratio m e).1 * 100) (ratio m e).2 =
      roundQuotient (num * 100) den := by
    refine roundQuotient_congr (ratio_snd_pos m e) hden ?_
    rw [← ratio_fst_div_snd, div_eq_div_iff hden'.ne' hpos.ne'] at hv
    have hcross : num * (ratio m e).2 = (ratio m e).1 * den := by exact_mod_cast hv
    rw [mul_right_comm, ← hcross, mul_right_comm]
  simp [Binary64.fixedText, hround, hundredthsText, padded, ← String.toList_inj,
    ← String.length_toList]

namespace Rendering

/-! ## Units -/

/-- The units of numbers of bytes; each is 1024 times the one before. -/
def byteUnits : List String := ["B", "KiB", "MiB", "GiB", "TiB", "PiB"]

variable {n : Nat}

theorem normal_div_units (hn : n < 2 ^ 53) {k : Nat} (hk : 1024 ^ k ≤ n) :
    Normal ((n : ℚ) / 1024 ^ k) := by
  have hpos : 0 < n := (by positivity : 0 < 1024 ^ k).trans_le hk
  have hpower : 2 ^ (10 * k) = 1024 ^ k := by
    rw [pow_mul]
    norm_num
  have hshort : 10 * k < 53 :=
    (Nat.pow_lt_pow_iff_right one_lt_two).mp ((hpower.trans_le hk).trans_lt hn)
  have hpower' : (2 : ℚ) ^ (10 * k) = 1024 ^ k := by exact_mod_cast hpower
  rw [← hpower']
  exact (normal_natCast hpos hn).div_two_pow (by exact_mod_cast hpos) (by omega)

theorem sizeText_eq (hn : n < 2 ^ 53) (larger : List String) (unit : String) (k : Nat)
    (size : Binary64) (hsize : HasValue size (n / 1024 ^ k)) (hk : 1024 ^ k ≤ n) :
    ∃ j last, (unit :: larger)[j]? = some last ∧ 1024 ^ (k + j) ≤ n ∧
      (j < larger.length → n < 1024 ^ (k + j + 1)) ∧
      sizeText size unit larger =
        hundredthsText (roundQuotient (n * 100) (1024 ^ (k + j))) ++ " " ++ last := by
  have htext : size.fixedText 2 = hundredthsText (roundQuotient (n * 100) (1024 ^ k)) :=
    HasValue.fixedText (by positivity) (by exact_mod_cast hsize)
  induction larger generalizing unit k size with
  | nil => exact ⟨0, unit, rfl, hk, by simp, by rw [sizeText, htext]; rfl⟩
  | cons next larger ih =>
    have hunit : size.atLeast 1024 = true ↔ 1024 ^ (k + 1) ≤ n := by
      rw [hsize.atLeast_iff, le_div_iff₀ (by positivity), pow_succ']
      exact_mod_cast Iff.rfl
    rw [sizeText]
    by_cases hnext : 1024 ^ (k + 1) ≤ n
    · rw [if_pos (hunit.mpr hnext)]
      have hquotient : (n : ℚ) / 1024 ^ k / (1024 : Nat) = n / 1024 ^ (k + 1) := by
        rw [div_div, pow_succ]
        norm_num
      have hvalue := hsize.divNat (k := 1024) (by norm_num)
        (by rw [hquotient]; exact normal_div_units hn hnext)
      rw [hquotient] at hvalue
      obtain ⟨j, last, hlast, hge, hlt, hrest⟩ := ih next (k + 1) _ hvalue hnext
        (HasValue.fixedText (by positivity) (by exact_mod_cast hvalue))
      rw [show k + 1 + j = k + (j + 1) by ring] at hge hlt hrest
      exact ⟨j + 1, last, hlast, hge, fun hj => hlt (Nat.lt_of_succ_lt_succ hj), hrest⟩
    · rw [if_neg (mt hunit.mp hnext), htext]
      exact ⟨0, unit, rfl, hk, fun _ => Nat.not_le.mp hnext, rfl⟩

/-! ## Normalised texts -/

/-- Whether a text shows a number of bytes by hundredths of a unit, and is off by at most half a
hundredth. -/
structure ShowsSize (n : Nat) (text : String) (k hundredths : Nat) : Prop where
  text_eq : ∃ unit, byteUnits[k]? = some unit ∧ text = hundredthsText hundredths ++ " " ++ unit
  accurate : |(hundredths / 100 : ℚ) * 1024 ^ k - n| ≤ 1024 ^ k / 200

/-- Whether a text shows a number of bytes as it is, below 1024, or by at least one and less than
1024 of a larger unit; of the largest unit there can be more. -/
def Normalised (n : Nat) (text : String) : Prop :=
  if n < 1024 then text = toString n ++ " B"
  else ∃ k h, 1 ≤ k ∧ ShowsSize n text k h ∧ 100 ≤ h ∧ (h < 102400 ∨ k = 5)

/-- Whether a number of bytes is so close below a unit that its hundredths are rounded up to it. -/
def RoundsUp (n : Nat) : Prop :=
  ∃ k, 1 ≤ k ∧ k ≤ 4 ∧ 204799 * 1024 ^ k ≤ 200 * n ∧ n < 1024 ^ (k + 1)

theorem valueText_small (hn : n < 1024) : valueText .bytes (.int n) = toString n ++ " B" := by
  have hvalue : HasValue (ofInt n) n := hasValue_ofInt (by omega)
  have hsmall : ¬(ofInt n).atLeast 1024 = true := by
    rw [hvalue.atLeast_iff]
    exact_mod_cast Nat.not_le.mpr hn
  change bytesText (ofInt n) = _
  rw [bytesText, if_neg hsmall, hvalue.toSignedWord (by omega)]
  rfl

/-- A size in hundredths of the largest unit up to it. -/
theorem exists_valueText (hn : n < 2 ^ 53) (hlarge : 1024 ≤ n) : ∃ k unit, 1 ≤ k ∧
    byteUnits[k]? = some unit ∧ 1024 ^ k ≤ n ∧ (k < 5 → n < 1024 ^ (k + 1)) ∧
    valueText .bytes (.int n) =
      hundredthsText (roundQuotient (n * 100) (1024 ^ k)) ++ " " ++ unit := by
  have hvalue : HasValue (ofInt n) n := hasValue_ofInt hn
  have hfirst : (ofInt n).atLeast 1024 = true := by
    rw [hvalue.atLeast_iff]
    exact_mod_cast hlarge
  have hsize : HasValue ((ofInt n).divNat 1024) (n / 1024 ^ 1) := by
    have hnormal := normal_div_units hn (k := 1) (by simpa using hlarge)
    simpa using hvalue.divNat (k := 1024) (by norm_num) (by simpa using hnormal)
  obtain ⟨j, unit, hunit, hge, hlt, htext⟩ :=
    sizeText_eq hn ["MiB", "GiB", "TiB", "PiB"] "KiB" 1 _ hsize (by simpa using hlarge)
  refine ⟨1 + j, unit, Nat.le_add_right 1 j, ?_, hge, fun hj => hlt ?_, ?_⟩
  · rw [Nat.add_comm]
    exact hunit
  · change j < 4
    omega
  · change bytesText (ofInt n) = _
    rw [bytesText, if_pos hfirst, htext]

/-! ## Texts tell their parts -/

theorem padded_inj {a b : Nat} (ha : a < 100) (hb : b < 100) (h : padded 2 a = padded 2 b) :
    a = b := by
  rw [← (padded_two a ha).2.2, h, (padded_two b hb).2.2]

theorem takeWhile_point (a : Nat) (rest : List Char) :
    ((toString a).toList ++ '.' :: rest).takeWhile (· != '.') = (toString a).toList := by
  have hdigits : ∀ c ∈ (toString a).toList, (c != '.') = true := by
    intro c hc
    have hdigit : c.isDigit = true := Naming.isDigit_of_mem_toString c hc
    refine bne_iff_ne.mpr ?_
    rintro rfl
    contradiction
  rw [List.takeWhile_append_of_pos hdigits]
  simp

theorem toString_injective {a b : Nat} (h : toString a = toString b) : a = b := by
  refine Naming.eq_of_append_toString (congrArg ("" ++ ·) h)

theorem decimal_inj {a b part part' : Nat} {unit unit' : List Char} (hpart : part < 100)
    (hpart' : part' < 100)
    (h : (toString a).toList ++ '.' :: ((padded 2 part).toList ++ ' ' :: unit) =
      (toString b).toList ++ '.' :: ((padded 2 part').toList ++ ' ' :: unit')) :
    a = b ∧ part = part' ∧ unit = unit' := by
  have hwhole : (toString a).toList = (toString b).toList := by
    rw [← takeWhile_point a, h, takeWhile_point b]
  rw [hwhole] at h
  have hrest := (List.cons.inj (List.append_cancel_left h)).2
  have hlength := (padded_two part hpart).1.trans (padded_two part' hpart').1.symm
  obtain ⟨hpadded, hunit⟩ := List.append_inj hrest hlength
  exact ⟨toString_injective (String.toList_inj.mp hwhole),
    padded_inj hpart hpart' (String.toList_inj.mp hpadded), (List.cons.inj hunit).2⟩

theorem hundredthsText_inj {h h' : Nat} {unit unit' : String}
    (heq : hundredthsText h ++ " " ++ unit = hundredthsText h' ++ " " ++ unit') :
    h = h' ∧ unit = unit' := by
  obtain ⟨hwhole, hpart, hunit⟩ := decimal_inj (a := h / 100) (b := h' / 100)
    (Nat.mod_lt h (by norm_num)) (Nat.mod_lt h' (by norm_num))
    (by simpa [hundredthsText] using congrArg String.toList heq)
  have hall : h = h' := by rw [← Nat.div_add_mod h 100, hwhole, hpart, Nat.div_add_mod]
  exact ⟨hall, String.toList_inj.mp hunit⟩

/-! ## Rounding -/

theorem accurate_roundQuotient (n k : Nat) :
    |((roundQuotient (n * 100) (1024 ^ k) : Nat) / 100 : ℚ) * 1024 ^ k - n| ≤ 1024 ^ k / 200 := by
  obtain ⟨habove, hbelow, -⟩ := roundQuotient_spec (n * 100) (by positivity : 0 < 1024 ^ k)
  generalize roundQuotient (n * 100) (1024 ^ k) = h at habove hbelow
  have habove' : 2 * ((n : ℚ) * 100) ≤ (2 * h + 1) * 1024 ^ k := by exact_mod_cast habove
  have hbelow' : 2 * (h : ℚ) * 1024 ^ k ≤ 2 * (n * 100) + 1024 ^ k := by exact_mod_cast hbelow
  rw [abs_le]
  constructor <;> linarith

theorem hundred_le_roundQuotient {k : Nat} (hk : 1024 ^ k ≤ n) :
    100 ≤ roundQuotient (n * 100) (1024 ^ k) := by
  rw [le_roundQuotient_iff (by positivity) (by norm_num) (by norm_num)]
  omega

/-- The hundredths of a unit get up to the next one exactly for numbers close below that. -/
theorem roundQuotient_lt_iff {k : Nat} :
    roundQuotient (n * 100) (1024 ^ k) < 102400 ↔ ¬204799 * 1024 ^ k ≤ 200 * n := by
  rw [← not_le, le_roundQuotient_iff (by positivity) (by norm_num) (by norm_num)]
  exact not_congr (by omega)

/-! ## Units of sizes -/

theorem le_five {k : Nat} {unit : String} (h : byteUnits[k]? = some unit) : k ≤ 5 :=
  Nat.le_of_lt_succ (List.getElem?_eq_some_iff.mp h).1

theorem byteUnits_inj {j k : Nat} {unit : String} (hj : byteUnits[j]? = some unit)
    (hk : byteUnits[k]? = some unit) : j = k := by
  obtain ⟨hj', hunit⟩ := List.getElem?_eq_some_iff.mp hj
  obtain ⟨hk', hunit'⟩ := List.getElem?_eq_some_iff.mp hk
  have hnodup : byteUnits.Nodup := by decide
  exact hnodup.getElem_inj_iff.mp (hunit.trans hunit'.symm)

/-- With the largest unit up to it, a number is rounded up to the next one or it is not. -/
theorem roundsUp_iff {k : Nat} (hk : 1 ≤ k) (hge : 1024 ^ k ≤ n)
    (hlt : k < 5 → n < 1024 ^ (k + 1)) :
    RoundsUp n ↔ k < 5 ∧ ¬roundQuotient (n * 100) (1024 ^ k) < 102400 := by
  rw [roundQuotient_lt_iff, not_not]
  constructor
  · rintro ⟨j, hj, hj4, hclose, hjlt⟩
    have hjge : 1024 ^ j ≤ n := by omega
    have hkj : k < j + 1 := (Nat.pow_lt_pow_iff_right (by norm_num)).mp (hge.trans_lt hjlt)
    have hk5 : k < 5 := by omega
    have hjk : j < k + 1 := (Nat.pow_lt_pow_iff_right (by norm_num)).mp (hjge.trans_lt (hlt hk5))
    obtain rfl : j = k := by omega
    exact ⟨hk5, hclose⟩
  · rintro ⟨hk5, hclose⟩
    exact ⟨k, hk, by omega, hclose, hlt hk5⟩

theorem not_roundsUp_small (hn : n < 1024) : ¬RoundsUp n := by
  rintro ⟨k, hk, -, hclose, -⟩
  have hunit : 1024 ^ 1 ≤ 1024 ^ k := Nat.pow_le_pow_right (by norm_num) hk
  omega

/-! ## Normalised texts -/

/-- Each number of 53 bits is shown by hundredths of the largest unit up to it, at least one of it;
only rounding can get them up to the next unit. -/
theorem exists_showsSize (hn : n < 2 ^ 53) (hlarge : 1024 ≤ n) : ∃ k h, 1 ≤ k ∧
    ShowsSize n (valueText .bytes (.int n)) k h ∧ 100 ≤ h ∧
    (RoundsUp n ↔ k < 5 ∧ ¬h < 102400) := by
  obtain ⟨k, unit, hk, hunit, hge, hlt, htext⟩ := exists_valueText hn hlarge
  exact ⟨k, _, hk, ⟨⟨unit, hunit, htext⟩, accurate_roundQuotient n k⟩,
    hundred_le_roundQuotient hge, roundsUp_iff hk hge hlt⟩

theorem ShowsSize.unique {text : String} {j k h h' : Nat} (hj : ShowsSize n text j h)
    (hk : ShowsSize n text k h') : j = k ∧ h = h' := by
  obtain ⟨unit, hunit, htext⟩ := hj.text_eq
  obtain ⟨unit', hunit', htext'⟩ := hk.text_eq
  obtain ⟨rfl, rfl⟩ := hundredthsText_inj (htext.symm.trans htext')
  exact ⟨byteUnits_inj hunit hunit', rfl⟩

theorem normalised_iff (hn : n < 2 ^ 53) :
    Normalised n (valueText .bytes (.int n)) ↔ ¬RoundsUp n := by
  unfold Normalised
  split
  · rename_i hsmall
    exact iff_of_true (valueText_small hsmall) (not_roundsUp_small hsmall)
  · rename_i hlarge
    obtain ⟨k, h, hk, hshows, hone, hup⟩ := exists_showsSize hn (Nat.not_lt.mp hlarge)
    rw [hup]
    constructor
    · rintro ⟨j, h', -, hshows', -, hnext⟩ ⟨hk5, hge⟩
      obtain ⟨rfl, rfl⟩ := hshows'.unique hshows
      omega
    · intro hnot
      obtain ⟨unit, hunit, -⟩ := hshows.text_eq
      have hk5 := le_five hunit
      exact ⟨k, h, hk, hshows, hone, by omega⟩

/-- What the text of each number of 53 bits tells as a number of bytes. Below 1024 it is the number
itself. From there on it is at least one of a unit and off by at most half a hundredth of it. It is
less than 1024 of the unit, or the unit is the largest, exactly if the number is not so close below
a unit that its hundredths are rounded up to that. -/
theorem valueText_bytes (hn : n < 2 ^ 53) :
    (n < 1024 → valueText .bytes (.int n) = toString n ++ " B") ∧
      (1024 ≤ n → ∃ k h, 1 ≤ k ∧ ShowsSize n (valueText .bytes (.int n)) k h ∧ 100 ≤ h) ∧
      (Normalised n (valueText .bytes (.int n)) ↔ ¬RoundsUp n) := by
  refine ⟨valueText_small, fun hlarge => ?_, normalised_iff hn⟩
  obtain ⟨k, h, hk, hshows, hone, -⟩ := exists_showsSize hn hlarge
  exact ⟨k, h, hk, hshows, hone⟩

/-- One and a half of a unit. -/
theorem valueText_bytes_1536 : 1536 < 2 ^ 53 ∧ Normalised 1536 (valueText .bytes (.int 1536)) := by
  have hn : 1536 < 2 ^ 53 := by norm_num
  refine ⟨hn, (valueText_bytes hn).2.2.mpr ?_⟩
  rintro ⟨k, hk, -, hclose, -⟩
  have hunit : 1024 ^ 1 ≤ 1024 ^ k := Nat.pow_le_pow_right (by norm_num) hk
  omega

/-- The last number below a larger unit is rounded up to 1024 of the smaller one. -/
theorem not_normalised_1048575 : valueText .bytes (.int 1048575) = "1024.00 KiB" ∧
    ¬Normalised 1048575 (valueText .bytes (.int 1048575)) := by
  refine ⟨by decide +kernel, mt (normalised_iff (n := 1048575) (by norm_num)).mp (not_not.mpr ?_)⟩
  exact ⟨1, by norm_num⟩

end Rendering

end ApiAtlas
