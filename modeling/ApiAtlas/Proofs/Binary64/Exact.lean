import ApiAtlas.Binary64.Basic
import Mathlib.Algebra.Order.Field.Power
import Mathlib.Algebra.Order.Ring.Rat
import Mathlib.Tactic.Linarith
import Mathlib.Tactic.NormNum
import Mathlib.Tactic.Positivity
import Mathlib.Tactic.Ring

/-!
# Exact results

A quotient that has a mantissa of 53 bits is a number of the format, and rounding leaves it as it
is. So whole numbers of 53 bits are exact, and quotients of them by powers of two are as long as
exponents last.
-/

namespace ApiAtlas

/-! ## Rounded quotients -/

theorem roundQuotient_mul_right (num den : Nat) {k : Nat} (hk : 0 < k) :
    roundQuotient (num * k) (den * k) = roundQuotient num den := by
  have hlt (a b : Nat) : a * k < b * k ↔ a < b := Nat.mul_lt_mul_right hk
  have htwice : 2 * (num % den * k) = 2 * (num % den) * k := by ring
  simp only [roundQuotient, Nat.mul_div_mul_right _ _ hk, Nat.mul_mod_mul_right, htwice, hlt]

/-- Equal quotients are rounded to the same number. -/
theorem roundQuotient_congr {a b c d : Nat} (hb : 0 < b) (hd : 0 < d) (h : a * d = c * b) :
    roundQuotient a b = roundQuotient c d := by
  rw [← roundQuotient_mul_right a b hd, ← roundQuotient_mul_right c d hb, h, Nat.mul_comm b d]

theorem roundQuotient_mul_self (m : Nat) {den : Nat} (h : 0 < den) :
    roundQuotient (m * den) den = m := by
  simp [roundQuotient, Nat.mul_div_cancel m h, h]

/-- A rounded quotient is off by at most a half, and it is even if it is off by a half. -/
theorem roundQuotient_spec (num : Nat) {den : Nat} (h : 0 < den) :
    2 * num ≤ (2 * roundQuotient num den + 1) * den ∧
      2 * roundQuotient num den * den ≤ 2 * num + den ∧
      (2 * num = (2 * roundQuotient num den + 1) * den → roundQuotient num den % 2 = 0) := by
  obtain ⟨q, hq⟩ : ∃ q, num / den = q := ⟨_, rfl⟩
  obtain ⟨r, hr⟩ : ∃ r, num % den = r := ⟨_, rfl⟩
  have hdiv : q * den + r = num := by rw [← hq, ← hr, Nat.mul_comm, Nat.div_add_mod]
  have hlt : r < den := hr ▸ Nat.mod_lt num h
  have hnext : (q + 1) * den = q * den + den := by ring
  have hhalf (k : Nat) : (2 * k + 1) * den = 2 * (k * den) + den ∧ 2 * k * den = 2 * (k * den) :=
    ⟨by ring, by ring⟩
  simp only [roundQuotient, hq, hr, hhalf]
  split
  · omega
  · split
    · rw [hnext]
      omega
    · rcases Nat.mod_two_eq_zero_or_one q with heven | hodd
      · rw [heven, Nat.add_zero]
        omega
      · rw [hodd, hnext]
        omega

/-- Where the rounded quotient gets up to an even number. -/
theorem le_roundQuotient_iff {num den m : Nat} (h : 0 < den) (hm : 0 < m) (heven : m % 2 = 0) :
    m ≤ roundQuotient num den ↔ (2 * m - 1) * den ≤ 2 * num := by
  obtain ⟨habove, hbelow, htie⟩ := roundQuotient_spec num h
  generalize roundQuotient num den = r at habove hbelow htie
  constructor
  · intro hle
    have hmul : 2 * m * den ≤ 2 * r * den := Nat.mul_le_mul_right den (by omega)
    rw [Nat.sub_mul, Nat.one_mul]
    omega
  · intro hge
    have hle : 2 * m - 1 ≤ 2 * r + 1 := Nat.le_of_mul_le_mul_right (hge.trans habove) h
    by_contra hlt
    have heq : 2 * m - 1 = 2 * r + 1 := by omega
    have := htie (Nat.le_antisymm habove (heq ▸ hge))
    omega

namespace Binary64

/-! ## Quotients as fractions -/

theorem scaled_fst_div_snd (num den : Nat) (e : Int) :
    ((scaled num den e).1 : ℚ) / (scaled num den e).2 = num / den / 2 ^ e := by
  unfold scaled
  split
  · rename_i he
    obtain ⟨k, rfl⟩ := Int.eq_ofNat_of_zero_le he
    simp [div_div]
  · obtain ⟨k, rfl | rfl⟩ := e.eq_nat_or_neg
    · omega
    · simp only [Int.neg_neg, Int.toNat_natCast, Nat.pow_eq, Nat.cast_mul, Nat.cast_pow, zpow_neg,
        zpow_natCast, div_inv_eq_mul, Nat.cast_ofNat]
      ring

theorem scaled_snd_pos {num den : Nat} (h : 0 < den) (e : Int) : 0 < (scaled num den e).2 := by
  unfold scaled
  split
  · simpa using h
  · exact h

theorem mul_scaled_le_iff {num den : Nat} (hden : 0 < den) (k : Nat) (e : Int) :
    k * (scaled num den e).2 ≤ (scaled num den e).1 ↔ (k : ℚ) * 2 ^ e ≤ num / den := by
  have hpos : (0 : ℚ) < (scaled num den e).2 := by exact_mod_cast scaled_snd_pos hden e
  have htwo : (0 : ℚ) < 2 ^ e := zpow_pos two_pos e
  rw [← le_div_iff₀ htwo, ← scaled_fst_div_snd, le_div_iff₀ hpos]
  exact_mod_cast Iff.rfl

theorem ratio_fst_div_snd (m : Nat) (e : Int) :
    ((ratio m e).1 : ℚ) / (ratio m e).2 = m * 2 ^ e := by
  unfold ratio
  split
  · rename_i he
    obtain ⟨k, rfl⟩ := Int.eq_ofNat_of_zero_le he
    simp
  · obtain ⟨k, rfl | rfl⟩ := e.eq_nat_or_neg
    · omega
    · simp [div_eq_mul_inv]

theorem ratio_snd_pos (m : Nat) (e : Int) : 0 < (ratio m e).2 := by
  unfold ratio
  split <;> simp

/-- Quotients are between the powers of two that the lengths of their parts tell. -/
theorem zpow_log2_lt_div {num den : Nat} (hnum : 0 < num) (hden : 0 < den) :
    (2 : ℚ) ^ ((num.log2 : Int) - den.log2 - 1) < num / den ∧
      (num : ℚ) / den < 2 ^ ((num.log2 : Int) - den.log2 + 1) := by
  have hn : (2 : ℚ) ^ num.log2 ≤ num := by exact_mod_cast Nat.log2_self_le hnum.ne'
  have hn' : (num : ℚ) < 2 ^ (num.log2 + 1) := by exact_mod_cast Nat.lt_log2_self
  have hd : (2 : ℚ) ^ den.log2 ≤ den := by exact_mod_cast Nat.log2_self_le hden.ne'
  have hd' : (den : ℚ) < 2 ^ (den.log2 + 1) := by exact_mod_cast Nat.lt_log2_self
  have hpos : (0 : ℚ) < den := by exact_mod_cast hden
  constructor
  · calc (2 : ℚ) ^ ((num.log2 : Int) - den.log2 - 1) = 2 ^ num.log2 / 2 ^ (den.log2 + 1) := by
          rw [zpow_sub₀ two_ne_zero, zpow_sub₀ two_ne_zero, pow_succ]
          simp [div_div]
      _ < 2 ^ num.log2 / den := by gcongr
      _ ≤ num / den := by gcongr
  · calc (num : ℚ) / den < 2 ^ (num.log2 + 1) / den := by gcongr
      _ ≤ 2 ^ (num.log2 + 1) / 2 ^ den.log2 := by gcongr
      _ = 2 ^ ((num.log2 : Int) - den.log2 + 1) := by
          rw [zpow_add₀ two_ne_zero, zpow_sub₀ two_ne_zero, pow_succ]
          simp [div_mul_eq_mul_div]

/-- The exponent at which a quotient has a mantissa of 53 bits is the one that is found. -/
theorem exponentOf_eq {num den : Nat} {e : Int} (hnum : 0 < num) (hden : 0 < den)
    (hleast : leastExponent ≤ e) (hlow : (2 : ℚ) ^ (52 + e) ≤ num / den)
    (hhigh : (num : ℚ) / den < 2 ^ (53 + e)) : exponentOf num den = e := by
  obtain ⟨habove, hbelow⟩ := zpow_log2_lt_div hnum hden
  have hle : 52 + e < (num.log2 : Int) - den.log2 + 1 :=
    (zpow_lt_zpow_iff_right₀ one_lt_two).mp (hlow.trans_lt hbelow)
  have hge : (num.log2 : Int) - den.log2 - 1 < 53 + e :=
    (zpow_lt_zpow_iff_right₀ one_lt_two).mp (habove.trans hhigh)
  unfold exponentOf
  generalize hstart : (num.log2 : Int) - den.log2 - 53 = low
  have hpower : ((Nat.pow 2 53 : Nat) : ℚ) * 2 ^ low = 2 ^ (53 + low) := by
    rw [zpow_add₀ two_ne_zero]
    norm_num
  have hcond : Nat.pow 2 53 * (scaled num den low).2 ≤ (scaled num den low).1 ↔ _ :=
    mul_scaled_le_iff hden (Nat.pow 2 53) low
  rw [hpower] at hcond
  simp only [hcond]
  rcases (by omega : e = low ∨ e = low + 1) with rfl | rfl
  · rw [if_neg (not_le.mpr hhigh)]
    exact max_eq_right hleast
  · rw [if_pos (by rwa [show 53 + low = 52 + (low + 1) by ring])]
    exact max_eq_right hleast

/-- Whether a value has a mantissa of 53 bits at an exponent of the format. -/
def Normal (v : ℚ) : Prop :=
  ∃ (m : Nat) (e : Int), 2 ^ 52 ≤ m ∧ m < 2 ^ 53 ∧ leastExponent ≤ e ∧ e ≤ greatestExponent ∧
    v = m * 2 ^ e

/-- Whether a number has a value that is not negative. -/
def HasValue (x : Binary64) (v : ℚ) : Prop :=
  ∃ (m : Nat) (e : Int), x = .finite false m e ∧ v = m * 2 ^ e

/-- A quotient with a mantissa of 53 bits is left as it is. -/
theorem hasValue_ofRatio {num den : Nat} (hden : 0 < den) (h : Normal ((num : ℚ) / den)) :
    HasValue (ofRatio false num den) (num / den) := by
  obtain ⟨m, e, hlow, hhigh, hleast, hgreatest, hv⟩ := h
  have htwo : (0 : ℚ) < 2 ^ e := zpow_pos two_pos e
  have hmantissa : (0 : ℚ) < m := by exact_mod_cast (by positivity : 0 < 2 ^ 52).trans_le hlow
  have hnum : num ≠ 0 := by
    rintro rfl
    simp [hmantissa.ne', htwo.ne'] at hv
  have hexponent : exponentOf num den = e := by
    refine exponentOf_eq (Nat.pos_of_ne_zero hnum) hden hleast ?_ ?_
    · rw [hv, zpow_add₀ two_ne_zero]
      gcongr
      exact_mod_cast hlow
    · rw [hv, zpow_add₀ two_ne_zero]
      gcongr
      exact_mod_cast hhigh
  have hscaled : (scaled num den e).1 = m * (scaled num den e).2 := by
    have hpos : (0 : ℚ) < (scaled num den e).2 := by exact_mod_cast scaled_snd_pos hden e
    have hquotient := scaled_fst_div_snd num den e
    rw [hv, mul_div_cancel_right₀ _ htwo.ne', div_eq_iff hpos.ne'] at hquotient
    exact_mod_cast hquotient
  have hround : roundQuotient (scaled num den e).1 (scaled num den e).2 = m := by
    rw [hscaled, roundQuotient_mul_self m (scaled_snd_pos hden e)]
  have hsmall : m ≠ Nat.pow 2 53 := hhigh.ne
  refine ⟨m, e, ?_, hv⟩
  simp only [ofRatio, hnum, if_false, hexponent, hround, pack, hsmall, not_lt.mpr hgreatest]

theorem normal_natCast {n : Nat} (hpos : 0 < n) (h : n < 2 ^ 53) : Normal n := by
  have hlow : 2 ^ n.log2 ≤ n := Nat.log2_self_le hpos.ne'
  have hhigh : n < 2 ^ (n.log2 + 1) := Nat.lt_log2_self
  have hlog : n.log2 ≤ 52 := by
    have hlt : n.log2 < 53 := (Nat.pow_lt_pow_iff_right one_lt_two).mp (hlow.trans_lt h)
    omega
  have hpower : 2 ^ n.log2 * 2 ^ (52 - n.log2) = 2 ^ 52 := by
    rw [← pow_add]
    congr 1
    omega
  refine ⟨n * 2 ^ (52 - n.log2), -((52 - n.log2 : Nat) : Int), ?_, ?_, ?_, ?_, ?_⟩
  · calc 2 ^ 52 = 2 ^ n.log2 * 2 ^ (52 - n.log2) := hpower.symm
      _ ≤ n * 2 ^ (52 - n.log2) := by gcongr
  · calc n * 2 ^ (52 - n.log2) < 2 ^ (n.log2 + 1) * 2 ^ (52 - n.log2) := by gcongr
      _ = 2 ^ 53 := by rw [pow_succ, mul_right_comm, hpower, ← pow_succ]
  · unfold leastExponent
    omega
  · unfold greatestExponent
    omega
  · simp

/-- Values from one on can be divided by powers of two until exponents end. -/
theorem Normal.div_two_pow {v : ℚ} {k : Nat} (h : Normal v) (hv : 1 ≤ v) (hk : k ≤ 1022) :
    Normal (v / 2 ^ k) := by
  obtain ⟨m, e, hlow, hhigh, hleast, hgreatest, rfl⟩ := h
  have hexponent : 0 < 53 + e := by
    refine (zpow_lt_zpow_iff_right₀ (one_lt_two (α := ℚ))).mp ?_
    calc (2 : ℚ) ^ (0 : Int) ≤ m * 2 ^ e := by simpa using hv
      _ < 2 ^ 53 * 2 ^ e := by
          gcongr
          exact_mod_cast hhigh
      _ = 2 ^ (53 + e) := by rw [zpow_add₀ two_ne_zero]; rfl
  refine ⟨m, e - k, hlow, hhigh, ?_, ?_, ?_⟩
  · unfold leastExponent
    omega
  · omega
  · rw [zpow_sub₀ two_ne_zero, zpow_natCast, mul_div_assoc]

/-! ## Exact numbers -/

/-- Whole numbers of 53 bits are exact. -/
theorem hasValue_ofInt {n : Nat} (h : n < 2 ^ 53) : HasValue (ofInt n) n := by
  rcases n.eq_zero_or_pos with rfl | hpos
  · exact ⟨0, leastExponent, rfl, by simp⟩
  · have hnormal := normal_natCast hpos h
    have hsign : decide ((n : Int) < 0) = false := by simp
    rw [ofInt, hsign, Int.natAbs_natCast]
    simpa using @hasValue_ofRatio n 1 Nat.one_pos (by simpa using hnormal)

variable {x : Binary64} {v : ℚ}

theorem HasValue.divNat {k : Nat} (h : HasValue x v) (hk : 0 < k) (hnormal : Normal (v / k)) :
    HasValue (x.divNat k) (v / k) := by
  obtain ⟨m, e, rfl, rfl⟩ := h
  have hquotient : ((ratio m e).1 : ℚ) / ((ratio m e).2 * k : Nat) = m * 2 ^ e / k := by
    rw [Nat.cast_mul, ← div_div, ratio_fst_div_snd]
  have hpos : 0 < (ratio m e).2 * k := Nat.mul_pos (ratio_snd_pos m e) hk
  have hvalue := hasValue_ofRatio hpos (hquotient ▸ hnormal)
  rw [hquotient] at hvalue
  exact hvalue

theorem HasValue.atLeast_iff (h : HasValue x v) (k : Nat) : x.atLeast k = true ↔ (k : ℚ) ≤ v := by
  obtain ⟨m, e, rfl, rfl⟩ := h
  have hpos : (0 : ℚ) < (ratio m e).2 := by exact_mod_cast ratio_snd_pos m e
  rw [← ratio_fst_div_snd, le_div_iff₀ hpos]
  simp only [atLeast, Bool.false_eq_true, if_false, decide_eq_true_eq]
  exact_mod_cast Iff.rfl

theorem HasValue.toSignedWord {n : Nat} (h : HasValue x n) (hn : n < 2 ^ 63) :
    x.toSignedWord = n := by
  obtain ⟨m, e, rfl, hv⟩ := h
  have hpos : (0 : ℚ) < (ratio m e).2 := by exact_mod_cast ratio_snd_pos m e
  have hproduct : (ratio m e).1 = n * (ratio m e).2 := by
    rw [← ratio_fst_div_snd, eq_div_iff hpos.ne'] at hv
    exact_mod_cast hv.symm
  have hwhole : (ratio m e).1 / (ratio m e).2 = n := by
    rw [hproduct, Nat.mul_div_cancel n (ratio_snd_pos m e)]
  simp only [Binary64.toSignedWord, truncateInto, hwhole, Bool.false_eq_true, if_false]
  omega

end Binary64

end ApiAtlas
