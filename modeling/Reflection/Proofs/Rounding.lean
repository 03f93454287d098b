import Reflection.Proofs.FloatValues

/-!
# Rounding to floating-point numbers

`BinaryFloat.ofRatio` takes the number that is nearest to a fraction.
`FloatKind.exists_lastPlace_eq` says where it rounds: the last place is the one of the number
itself, so the rounded quotient is a mantissa of the right size.

Main statements:

* `BinaryFloat.isFinite_ofRatio_iff`: the result is finite exactly below `FloatKind.overflow`, and
  it is an infinity from there on (`BinaryFloat.ofRatio_eq_infinity`).
* `BinaryFloat.value?_ofRatio`: a fraction that is a number of the kind already is kept.
* `BinaryFloat.value?_convert_f64`: every number is kept by the wide kind.
-/

set_option autoImplicit false

namespace Reflection

-- Powers are computed by the power of the numbers, not by the one of monoids.
attribute [local instance (high)] instPowNat

/-! ## The nearest natural number -/

section Nearest

variable {n d m : ℕ}

theorem le_divNearestEven (hd : 0 < d) (h : m * d ≤ n) : m ≤ divNearestEven n d := by
  have hlow : m ≤ n / d := (Nat.le_div_iff_mul_le hd).2 h
  simp only [divNearestEven]
  split_ifs <;> omega

theorem divNearestEven_le (hd : 0 < d) (h : n ≤ m * d) : divNearestEven n d ≤ m := by
  have hlow : n / d ≤ m := Nat.div_le_of_le_mul (by rwa [Nat.mul_comm])
  rcases Nat.lt_or_eq_of_le hlow with hlt | heq
  · simp only [divNearestEven]
    split_ifs <;> omega
  · -- The quotient is the bound already, so nothing is left to be rounded up.
    have hsum := Nat.div_add_mod' n d
    rw [heq] at hsum
    have hrest : n % d = 0 := by omega
    simp only [divNearestEven, hrest, Nat.mul_zero, if_pos hd, heq, le_refl]

/-- Half a place below an even number is rounded up to it. -/
theorem divNearestEven_lt_iff (hd : 0 < d) (heven : m % 2 = 0) :
    divNearestEven n d < m ↔ 2 * n + d < 2 * (m * d) := by
  have hsum := Nat.div_add_mod' n d
  have hmod := Nat.mod_lt n hd
  rcases Nat.lt_trichotomy (n / d + 1) m with hlt | heq | hgt
  · have hle : (n / d + 2) * d ≤ m * d := Nat.mul_le_mul_right d hlt
    rw [Nat.add_mul] at hle
    apply iff_of_true
    · simp only [divNearestEven]
      split_ifs <;> omega
    · omega
  · -- The number below is odd, so a tie goes to the even one.
    rw [← heq, Nat.succ_mul (n / d) d]
    simp only [divNearestEven]
    split_ifs <;> omega
  · have hle : m * d ≤ n / d * d := Nat.mul_le_mul_right d (by omega)
    apply iff_of_false
    · simp only [divNearestEven]
      split_ifs <;> omega
    · omega

end Nearest

/-! ## The nearest multiple of a power of two -/

theorem scaleDown_pos {den : ℕ} (hden : 0 < den) (num : ℕ) (e : ℤ) :
    0 < (scaleDown num den e).2 := by
  cases e with
  | ofNat e => exact Nat.mul_pos hden (Nat.two_pow_pos e)
  | negSucc e => exact hden

theorem scaleDown_div (num den : ℕ) (e : ℤ) :
    ((scaleDown num den e).1 : ℚ) / (scaleDown num den e).2 = num / den / 2 ^ e := by
  cases e with
  | ofNat e =>
    rw [scaleDown, Int.ofNat_eq_natCast, zpow_natCast]
    push_cast
    rw [div_div]
  | negSucc e =>
    rw [scaleDown, zpow_negSucc, div_inv_eq_mul]
    push_cast
    rw [div_mul_eq_mul_div]

/-- How many times `2 ^ e` the fraction `num / den` is, rounded to the nearest number. -/
def roundAt (num den : ℕ) (e : ℤ) : ℕ :=
  divNearestEven (scaleDown num den e).1 (scaleDown num den e).2

section RoundAt

variable {num den m : ℕ} {e : ℤ}

/-- Comparison of the scaled fraction with a number, in whole numbers. -/
theorem mul_le_scaleDown_iff (hden : 0 < den) :
    m * (scaleDown num den e).2 ≤ (scaleDown num den e).1 ↔ (m : ℚ) * 2 ^ e ≤ num / den := by
  rw [← le_div_iff₀ (zpow_pos two_pos _ : (0 : ℚ) < 2 ^ e), ← scaleDown_div,
    le_div_iff₀ (Nat.cast_pos.2 (scaleDown_pos hden num e))]
  exact_mod_cast Iff.rfl

theorem scaleDown_le_mul_iff (hden : 0 < den) :
    (scaleDown num den e).1 ≤ m * (scaleDown num den e).2 ↔ (num : ℚ) / den ≤ m * 2 ^ e := by
  rw [← div_le_iff₀ (zpow_pos two_pos _ : (0 : ℚ) < 2 ^ e), ← scaleDown_div,
    div_le_iff₀ (Nat.cast_pos.2 (scaleDown_pos hden num e))]
  exact_mod_cast Iff.rfl

theorem scaleDown_div_lt_iff {bits : ℕ} (hden : 0 < den) :
    (scaleDown num den e).1 / (scaleDown num den e).2 < 2 ^ bits ↔
      (num : ℚ) / den < 2 ^ bits * 2 ^ e := by
  rw [Nat.div_lt_iff_lt_mul (scaleDown_pos hden num e), ← not_le, mul_le_scaleDown_iff hden, not_le]
  push_cast
  rfl

theorem le_roundAt (hden : 0 < den) (h : (m : ℚ) * 2 ^ e ≤ num / den) : m ≤ roundAt num den e :=
  le_divNearestEven (scaleDown_pos hden num e) ((mul_le_scaleDown_iff hden).2 h)

theorem roundAt_le (hden : 0 < den) (h : (num : ℚ) / den ≤ m * 2 ^ e) : roundAt num den e ≤ m :=
  divNearestEven_le (scaleDown_pos hden num e) ((scaleDown_le_mul_iff hden).2 h)

theorem roundAt_le_two_pow {bits : ℕ} (hden : 0 < den) (h : (num : ℚ) / den < 2 ^ bits * 2 ^ e) :
    roundAt num den e ≤ 2 ^ bits := by
  apply roundAt_le hden
  push_cast
  exact h.le

theorem two_pow_le_roundAt {bits : ℕ} (hden : 0 < den) (h : 2 ^ bits * 2 ^ e ≤ (num : ℚ) / den) :
    2 ^ bits ≤ roundAt num den e := by
  apply le_roundAt hden
  push_cast
  exact h

theorem roundAt_lt_iff (hden : 0 < den) (heven : m % 2 = 0) :
    roundAt num den e < m ↔ (num : ℚ) / den < (m - 1 / 2) * 2 ^ e := by
  have hd := scaleDown_pos hden num e
  rw [roundAt, divNearestEven_lt_iff hd heven,
    ← div_lt_iff₀ (zpow_pos two_pos _ : (0 : ℚ) < 2 ^ e), ← scaleDown_div,
    div_lt_iff₀ (Nat.cast_pos.2 hd), ← Nat.cast_lt (α := ℚ)]
  push_cast
  constructor <;> intro h <;> linarith

end RoundAt

namespace FloatKind

variable {k : FloatKind} {num den : ℕ}

/-- A positive fraction lies between the powers of two that the lengths of its parts give. -/
theorem ratio_bounds (hnum : 0 < num) (hden : 0 < den) :
    (2 : ℚ) ^ ((num.log2 : ℤ) - den.log2 - 1) ≤ num / den ∧
      (num : ℚ) / den < 2 ^ ((num.log2 : ℤ) - den.log2 + 1) := by
  have hnumLow : ((2 ^ num.log2 : ℕ) : ℚ) ≤ num := Nat.cast_le.2 (Nat.log2_self_le hnum.ne')
  have hnumHigh : (num : ℚ) < (2 ^ (num.log2 + 1) : ℕ) := Nat.cast_lt.2 Nat.lt_log2_self
  have hdenLow : ((2 ^ den.log2 : ℕ) : ℚ) ≤ den := Nat.cast_le.2 (Nat.log2_self_le hden.ne')
  have hdenHigh : (den : ℚ) < (2 ^ (den.log2 + 1) : ℕ) := Nat.cast_lt.2 Nat.lt_log2_self
  have hdenPos : (0 : ℚ) < den := Nat.cast_pos.2 hden
  push_cast at hnumLow hnumHigh hdenLow hdenHigh
  constructor
  · rw [sub_sub, zpow_sub₀ two_ne_zero, zpow_natCast, ← Nat.cast_succ, zpow_natCast]
    exact div_le_div₀ (Nat.cast_nonneg num) hnumLow hdenPos hdenHigh.le
  · rw [sub_add_eq_add_sub, zpow_sub₀ two_ne_zero, zpow_natCast, ← Nat.cast_succ, zpow_natCast]
    exact div_lt_div₀ hnumHigh hdenLow (by positivity) (by positivity)

/-- The last place is the one of the number itself: the fraction has at most the digits of a
mantissa before it, and all of them unless it is the least place. -/
theorem exists_lastPlace_eq (k : FloatKind) (hnum : 0 < num) (hden : 0 < den) :
    ∃ s : ℕ, k.lastPlace num den = k.leastExponent + s ∧
      (num : ℚ) / den < 2 ^ (k.fractionBits + 1) * 2 ^ (k.leastExponent + s) ∧
        (s = 0 ∨ 2 ^ k.fractionBits * 2 ^ (k.leastExponent + s) ≤ (num : ℚ) / den) := by
  obtain ⟨hlow, hhigh⟩ := ratio_bounds hnum hden
  -- The first guess is off by one at most.
  obtain ⟨guess, hguess⟩ : ∃ e : ℤ,
      e = max k.leastExponent ((num.log2 : ℤ) - den.log2 - 1 - k.fractionBits) := ⟨_, rfl⟩
  have hlast : k.lastPlace num den =
      if (scaleDown num den guess).1 / (scaleDown num den guess).2 < 2 ^ (k.fractionBits + 1)
        then guess else guess + 1 := by
    rw [hguess]
    rfl
  have hplace : k.leastExponent + ((guess - k.leastExponent).toNat : ℕ) = guess := by omega
  rw [hlast]
  split
  · rename_i hlt
    refine ⟨(guess - k.leastExponent).toNat, hplace.symm, ?_, ?_⟩
    · rw [hplace]
      exact (scaleDown_div_lt_iff hden).1 hlt
    · rw [hplace]
      rcases le_or_gt guess k.leastExponent with hleast | hmore
      · left
        omega
      · right
        have hexponent : (k.fractionBits : ℤ) + guess = (num.log2 : ℤ) - den.log2 - 1 := by omega
        rw [← zpow_natCast, ← zpow_add₀ two_ne_zero, hexponent]
        exact hlow
  · rename_i hnot
    have hnext : k.leastExponent + ((guess - k.leastExponent).toNat + 1 : ℕ) = guess + 1 := by omega
    refine ⟨(guess - k.leastExponent).toNat + 1, hnext.symm, ?_, ?_⟩
    · rw [hnext, ← zpow_natCast, ← zpow_add₀ two_ne_zero]
      apply hhigh.trans_le
      apply zpow_le_zpow_right₀ one_le_two
      omega
    · right
      rw [hnext, zpow_add_one₀ two_ne_zero, mul_comm _ (2 : ℚ), ← mul_assoc, ← pow_succ]
      exact not_lt.1 (mt (scaleDown_div_lt_iff hden).2 hnot)

/-- The pattern that rounding puts together. -/
theorem magnitude_eq_roundAt {s : ℕ} (hplace : k.lastPlace num den = k.leastExponent + s) :
    k.magnitude num den = min k.infinityPattern
      (s * 2 ^ k.fractionBits + roundAt num den (k.leastExponent + s)) := by
  rw [magnitude, hplace, add_sub_cancel_left, Int.toNat_natCast]
  rfl

/-! ## The range -/

theorem overflow_pos (k : FloatKind) : 0 < k.overflow := by
  have hmax := mul_lt_overflow (Nat.two_pow_pos (k.fractionBits + 1)) (Nat.zero_le k.places)
  rwa [Nat.cast_zero, zero_mul] at hmax

/-- Even rounded up, the numbers below the last binade stay below the overflow. -/
theorem carry_lt_overflow {s : ℕ} (hs : s < k.places) :
    2 ^ (k.fractionBits + 1) * 2 ^ (k.leastExponent + s) < k.overflow := by
  have hnext := mul_lt_overflow
    (Nat.pow_lt_pow_right (by decide) (Nat.lt_succ_self k.fractionBits)) hs
  rwa [Nat.cast_succ, ← add_assoc, zpow_add_one₀ two_ne_zero, mul_comm _ (2 : ℚ), ← mul_assoc,
    Nat.cast_pow, Nat.cast_two, ← pow_succ] at hnext

/-- Past the last binade every number is past the overflow. -/
theorem overflow_le_full {s : ℕ} (hs : k.places < s) :
    k.overflow ≤ 2 ^ k.fractionBits * 2 ^ (k.leastExponent + s) := by
  have hunit : (0 : ℚ) < 2 ^ (k.leastExponent + k.places) := zpow_pos two_pos _
  calc k.overflow
      ≤ 2 ^ (k.fractionBits + 1) * 2 ^ (k.leastExponent + k.places) := by
        apply mul_le_mul_of_nonneg_right _ hunit.le
        linarith
    _ = 2 ^ k.fractionBits * (2 ^ (k.leastExponent + k.places) * 2) := by
        rw [pow_succ]
        ring
    _ ≤ 2 ^ k.fractionBits * 2 ^ (k.leastExponent + s) :=
        mul_le_mul_of_nonneg_left (zpow_mul_two_le k.leastExponent hs) (by positivity)

/-- A pattern stays below the infinity exactly if the fraction stays below the overflow. -/
theorem magnitude_lt_iff (k : FloatKind) (hnum : 0 < num) (hden : 0 < den) :
    k.magnitude num den < k.infinityPattern ↔ (num : ℚ) / den < k.overflow := by
  obtain ⟨s, hplace, hlt, hfull⟩ := k.exists_lastPlace_eq hnum hden
  have hcarry : 2 ^ (k.fractionBits + 1) = 2 * 2 ^ k.fractionBits := by rw [pow_succ, mul_comm]
  rw [magnitude_eq_roundAt hplace, min_lt_iff, or_iff_right (lt_irrefl _), infinityPattern_eq,
    Nat.add_mul]
  rcases Nat.lt_trichotomy s k.places with hless | heq | hmore
  · apply iff_of_true
    · have hround := roundAt_le_two_pow hden hlt
      have hmul := Nat.mul_lt_mul_of_pos_right hless (Nat.two_pow_pos k.fractionBits)
      omega
    · exact hlt.trans (carry_lt_overflow hless)
  · -- In the last binade the greatest mantissa decides, and a tie goes to the infinity.
    have heven : 2 ^ (k.fractionBits + 1) % 2 = 0 := by rw [hcarry, Nat.mul_mod_right]
    rw [heq, Nat.add_lt_add_iff_left, ← hcarry, roundAt_lt_iff hden heven, overflow]
    push_cast
    rfl
  · have hleast := hfull.resolve_left (by omega)
    apply iff_of_false
    · have hround := two_pow_le_roundAt hden hleast
      have hmul := Nat.mul_le_mul_right (2 ^ k.fractionBits) hmore
      rw [Nat.succ_mul] at hmul
      omega
    · exact not_lt.2 ((overflow_le_full hmore).trans hleast)

end FloatKind

namespace BinaryFloat

variable {k : FloatKind} {num den : ℕ}

theorem pattern_ofRatio_zero (k : FloatKind) (negative : Bool) (den : ℕ) :
    (ofRatio k negative 0 den).pattern = 0 :=
  rfl

theorem pattern_ofRatio (negative : Bool) (hnum : 0 < num) :
    (ofRatio k negative num den).pattern = k.magnitude num den :=
  if_neg hnum.ne'

/-- The range is checked by the exact fraction. -/
theorem isFinite_ofRatio_iff (k : FloatKind) (negative : Bool) (num : ℕ) (hden : 0 < den) :
    (ofRatio k negative num den).datum.isFinite ↔ (num : ℚ) / den < k.overflow := by
  rw [isFinite_datum_iff]
  rcases Nat.eq_zero_or_pos num with rfl | hnum
  · rw [pattern_ofRatio_zero, Nat.cast_zero, zero_div]
    apply iff_of_true _ k.overflow_pos
    rw [FloatKind.infinityPattern_eq]
    exact Nat.mul_pos (Nat.succ_pos _) (Nat.two_pow_pos _)
  · rw [pattern_ofRatio negative hnum]
    exact k.magnitude_lt_iff hnum hden

theorem ofRatio_eq_infinity (negative : Bool) (hden : 0 < den)
    (h : k.overflow ≤ (num : ℚ) / den) : ofRatio k negative num den = infinity k negative := by
  have hnum : 0 < num := by
    apply Nat.pos_of_ne_zero
    rintro rfl
    rw [Nat.cast_zero, zero_div] at h
    exact absurd k.overflow_pos (not_lt.2 h)
  have hmagnitude : k.magnitude num den = k.infinityPattern := by
    apply le_antisymm (k.magnitude_le num den)
    rw [← not_lt, k.magnitude_lt_iff hnum hden, not_lt]
    exact h
  simp only [ofRatio, infinity, if_neg hnum.ne', hmagnitude]

/-! ## Exact fractions -/

/-- A fraction that is a number of the kind is kept. -/
theorem value?_ofRatio (negative : Bool) (hden : 0 < den) {m t : ℕ}
    (hm : m < 2 ^ (k.fractionBits + 1)) (hratio : (num : ℚ) / den = m * 2 ^ (k.leastExponent + t))
    (hrange : (num : ℚ) / den < k.overflow) :
    (ofRatio k negative num den).value? =
      some ((FloatDatum.signed negative 1 : ℚ) * (num / den)) := by
  have hfinite := isFinite_datum_iff.1 ((isFinite_ofRatio_iff k negative num hden).2 hrange)
  rcases Nat.eq_zero_or_pos num with rfl | hnum
  · rw [Nat.cast_zero, zero_div, mul_zero]
    exact isZero_iff.1 (beq_iff_eq.2 (pattern_ofRatio_zero k negative den))
  · obtain ⟨s, hplace, hlt, hfull⟩ := k.exists_lastPlace_eq hnum hden
    have hst : s ≤ t := FloatKind.place_le hm (hratio ▸ hfull)
    obtain ⟨e, rfl⟩ := Nat.exists_eq_add_of_le hst
    have hexact : (num : ℚ) / den = (m * 2 ^ e : ℕ) * 2 ^ (k.leastExponent + s) := by
      rw [hratio, Nat.cast_add, ← add_assoc, zpow_add₀ two_ne_zero _ (e : ℤ), zpow_natCast]
      push_cast
      ring
    have hround : roundAt num den (k.leastExponent + s) = m * 2 ^ e :=
      le_antisymm (roundAt_le hden hexact.le) (le_roundAt hden hexact.ge)
    have hpattern : (ofRatio k negative num den).pattern =
        s * 2 ^ k.fractionBits + m * 2 ^ e := by
      rw [pattern_ofRatio negative hnum, FloatKind.magnitude_eq_roundAt hplace, hround] at hfinite ⊢
      exact min_eq_right (min_lt_iff.1 hfinite |>.resolve_left (lt_irrefl _)).le
    have hfits : m * 2 ^ e ≤ 2 ^ (k.fractionBits + 1) := by
      rw [← hround]
      exact roundAt_le_two_pow hden hlt
    have hleast : s = 0 ∨ 2 ^ k.fractionBits ≤ m * 2 ^ e := by
      rw [← hround]
      exact hfull.imp_right (two_pow_le_roundAt hden)
    rw [value?_of_pattern hfits hleast hpattern hfinite, hexact, ← mul_assoc]
    have hsigned := FloatDatum.signed_mul negative 1 (m * 2 ^ e)
    rw [Nat.one_mul] at hsigned
    rw [show (ofRatio k negative num den).negative = negative from rfl, hsigned]
    push_cast
    rfl

/-! ## Integers and other kinds -/

theorem signed_mul_natAbs (n : ℤ) :
    ((FloatDatum.signed (n < 0) 1 : ℤ) : ℚ) * (n.natAbs : ℕ) = n := by
  have hsigned : FloatDatum.signed (n < 0) 1 * (n.natAbs : ℤ) = n := by
    by_cases hneg : n < 0
    · simp only [FloatDatum.signed, hneg, decide_true, if_true]
      omega
    · simp only [FloatDatum.signed, hneg, decide_false, Bool.false_eq_true, if_false]
      omega
  rw [← Int.cast_natCast, ← Int.cast_mul, hsigned]

theorem natAbs_div_one (n : ℤ) : ((n.natAbs : ℕ) : ℚ) / (1 : ℕ) = |(n : ℚ)| := by
  rw [Nat.cast_one, div_one, Nat.cast_natAbs, Int.cast_abs]

/-- An integer that is a number of the kind is kept. -/
theorem value?_ofInt {n : ℤ} {m t : ℕ} (hm : m < 2 ^ (k.fractionBits + 1))
    (hn : |(n : ℚ)| = m * 2 ^ (k.leastExponent + t)) (hrange : |(n : ℚ)| < k.overflow) :
    (ofInt k n).value? = some (n : ℚ) := by
  rw [← natAbs_div_one] at hn hrange
  rw [ofInt, value?_ofRatio _ Nat.one_pos hm hn hrange, Nat.cast_one, div_one, signed_mul_natAbs]

section Convert

variable {x : BinaryFloat} {q : ℚ}

theorem exists_datum_eq (h : x.value? = some q) :
    ∃ (m : ℕ) (e : ℤ), x.datum = .finite x.negative m e ∧
      q = (FloatDatum.signed x.negative m : ℚ) * 2 ^ e := by
  have hfinite := pattern_lt_of_value? h
  obtain ⟨m, s, hm, hfull, hpattern⟩ := x.exists_pattern_eq
  have hdatum := datum_of_pattern hm hfull hpattern hfinite
  rw [value?, hdatum, FloatDatum.value?, Option.some.injEq] at h
  exact ⟨m, _, hdatum, h.symm⟩

/-- Conversion rounds the magnitude and keeps the sign. -/
theorem exists_convert_eq (k : FloatKind) (h : x.value? = some q) :
    ∃ num den : ℕ, 0 < den ∧ (num : ℚ) / den = |q| ∧
      x.convert k = ofRatio k x.negative num den := by
  obtain ⟨m, e, hdatum, rfl⟩ := exists_datum_eq h
  refine ⟨(scaleDown m 1 (-e)).1, (scaleDown m 1 (-e)).2, scaleDown_pos Nat.one_pos m (-e), ?_, ?_⟩
  · rw [scaleDown_div, Nat.cast_one, div_one, zpow_neg, div_inv_eq_mul, abs_mul,
      FloatDatum.abs_signed, abs_of_pos (zpow_pos two_pos _ : (0 : ℚ) < _)]
  · rw [convert, hdatum, ofDatum, ofScaled]

theorem signed_mul_abs (h : x.value? = some q) :
    (FloatDatum.signed x.negative 1 : ℚ) * |q| = q := by
  obtain ⟨m, e, -, rfl⟩ := exists_datum_eq h
  rw [abs_mul, FloatDatum.abs_signed, abs_of_pos (zpow_pos two_pos _ : (0 : ℚ) < _), ← mul_assoc]
  have hsigned := FloatDatum.signed_mul x.negative 1 m
  rw [Nat.one_mul] at hsigned
  rw [hsigned]
  push_cast
  rfl

/-- A number that the other kind has is kept. -/
theorem value?_convert (h : x.value? = some q) {m t : ℕ} (hm : m < 2 ^ (k.fractionBits + 1))
    (hq : |q| = m * 2 ^ (k.leastExponent + t)) (hrange : |q| < k.overflow) :
    (x.convert k).value? = some q := by
  obtain ⟨num, den, hden, hratio, hconvert⟩ := exists_convert_eq k h
  rw [← hratio] at hq hrange
  rw [hconvert, value?_ofRatio _ hden hm hq hrange, hratio, signed_mul_abs h]

/-- The magnitude of a number in places of the wide kind, which has all places of either kind. -/
theorem exists_abs_eq_f64 (h : x.value? = some q) :
    ∃ m t : ℕ, m < 2 ^ (FloatKind.f64.fractionBits + 1) ∧
      |q| = m * 2 ^ (FloatKind.f64.leastExponent + t) := by
  obtain ⟨m, s, hm, -, -, hvalue⟩ := exists_value?_eq (pattern_lt_of_value? h)
  rw [h, Option.some.injEq] at hvalue
  have hplaces : FloatKind.f64.leastExponent ≤ x.kind.leastExponent := by
    cases x.kind <;> decide
  have hbits : x.kind.fractionBits ≤ FloatKind.f64.fractionBits := by
    cases x.kind <;> decide
  refine ⟨m, s + (x.kind.leastExponent - FloatKind.f64.leastExponent).toNat, ?_, ?_⟩
  · exact hm.trans_le (Nat.pow_le_pow_right two_pos (Nat.succ_le_succ hbits))
  · have hexponent : FloatKind.f64.leastExponent +
        (s + (x.kind.leastExponent - FloatKind.f64.leastExponent).toNat : ℕ) =
          x.kind.leastExponent + s := by omega
    rw [hexponent, hvalue, abs_mul, FloatDatum.abs_signed,
      abs_of_pos (zpow_pos two_pos _ : (0 : ℚ) < _)]

/-- Every number is kept by the wide kind. -/
theorem value?_convert_f64 (h : x.value? = some q) : (x.convert .f64).value? = some q := by
  obtain ⟨m, t, hm, hq⟩ := exists_abs_eq_f64 h
  exact value?_convert h hm hq ((abs_lt_overflow h).trans_le x.kind.overflow_le_f64)

end Convert

end BinaryFloat

end Reflection
