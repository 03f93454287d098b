import Mathlib
import Reflection.Number.Binary

/-!
# The numbers that floating-point patterns stand for

`BinaryFloat.value?` is the exact rational number of a pattern; infinities and what is no number
have none.

* `FloatDatum.truncate_eq`, `FloatDatum.denotes_iff`: truncation and comparison with an integer are
  those of the exact number.
* `BinaryFloat.value?_of_pattern`: the number of a pattern that is put together from a mantissa and
  an exponent.
* `BinaryFloat.equals_iff_value?`: two numbers of one kind are equal exactly if they stand for the
  same exact number.
-/

set_option autoImplicit false

namespace Reflection

-- Powers are computed by the power of the numbers, not by the one of monoids.
attribute [local instance (high)] instPowNat

/-- A rational number without its fraction. -/
def towardZero (q : ℚ) : ℤ :=
  if 0 ≤ q then ⌊q⌋ else ⌈q⌉

theorem towardZero_intCast (n : ℤ) : towardZero n = n := by
  rw [towardZero, Int.floor_intCast, Int.ceil_intCast, ite_self]

theorem towardZero_neg (q : ℚ) : towardZero (-q) = -towardZero q := by
  rcases lt_trichotomy q 0 with hneg | rfl | hpos
  · rw [towardZero, towardZero, if_pos (by linarith), if_neg (not_le.2 hneg), Int.floor_neg]
  · rfl
  · rw [towardZero, towardZero, if_neg (by linarith), if_pos hpos.le, Int.ceil_neg]

theorem towardZero_natCast_div (m d : ℕ) : towardZero ((m : ℚ) / d) = (m / d : ℕ) := by
  rw [towardZero, if_pos (by positivity)]
  have hfloor := Rat.floor_intCast_div_natCast (m : ℤ) d
  rw [Int.cast_natCast] at hfloor
  rw [hfloor]
  rfl

namespace FloatDatum

/-- The exact number, if the datum is finite. -/
def value? : FloatDatum → Option ℚ
  | finite negative m e => some (signed negative m * 2 ^ e)
  | _ => none

theorem isFinite_iff {d : FloatDatum} : d.isFinite ↔ ∃ q, d.value? = some q := by
  cases d with
  | finite negative m e => simp [isFinite, value?]
  | _ => simp [isFinite, value?]

theorem signed_mul (negative : Bool) (m n : ℕ) :
    signed negative (m * n) = signed negative m * n := by
  cases negative <;> simp [signed]

/-- Whether a datum is an integer is decided by its exact number. -/
theorem denotes_iff {d : FloatDatum} {n : ℤ} : d.denotes n ↔ d.value? = some (n : ℚ) := by
  cases d with
  | finite negative m e =>
    cases e with
    | ofNat e =>
      rw [denotes, value?, beq_iff_eq, Option.some.injEq, Int.ofNat_eq_natCast, zpow_natCast]
      exact_mod_cast Iff.rfl
    | negSucc e =>
      rw [denotes, value?, beq_iff_eq, Option.some.injEq, zpow_negSucc, ← div_eq_mul_inv,
        div_eq_iff (by positivity)]
      exact_mod_cast Iff.rfl
  | _ => simp [denotes, value?]

/-- The fraction is cut off toward zero. -/
theorem truncate_eq (d : FloatDatum) : d.truncate = d.value?.map towardZero := by
  cases d with
  | finite negative m e =>
    cases e with
    | ofNat e =>
      have hwhole : (signed negative m : ℚ) * 2 ^ (Int.ofNat e) =
          (signed negative (m * 2 ^ e) : ℤ) := by
        rw [signed_mul, Int.ofNat_eq_natCast, zpow_natCast]
        push_cast
        rfl
      rw [truncate, value?, Option.map_some, hwhole, towardZero_intCast]
    | negSucc e =>
      have hpow : ((2 ^ (e + 1) : ℕ) : ℚ) = 2 ^ (e + 1) := by push_cast; rfl
      rw [truncate, value?, Option.map_some, zpow_negSucc, ← div_eq_mul_inv, ← hpow]
      apply congrArg some
      cases negative with
      | false => exact (towardZero_natCast_div m _).symm
      | true =>
        have hneg : (signed true m : ℚ) / (2 ^ (e + 1) : ℕ) = -((m : ℚ) / (2 ^ (e + 1) : ℕ)) := by
          simp [signed, neg_div]
        rw [hneg, towardZero_neg, towardZero_natCast_div]
        rfl
  | _ => rfl

end FloatDatum

namespace BinaryFloat

variable {x y : BinaryFloat} {m s : ℕ}

/-- The exact number that the pattern stands for, if it is finite. -/
def value? (x : BinaryFloat) : Option ℚ :=
  x.datum.value?

/-! ## Patterns and their numbers -/

theorem isFinite_datum_iff : x.datum.isFinite ↔ x.pattern < x.kind.infinityPattern := by
  rw [datum]
  split
  · rename_i h
    exact iff_of_false Bool.false_ne_true (Nat.lt_asymm h)
  · split
    · rename_i h
      exact iff_of_false Bool.false_ne_true (Nat.not_lt.2 (Nat.le_of_eq h))
    · have hlt : x.pattern < x.kind.infinityPattern := by omega
      split
      · exact iff_of_true rfl hlt
      · exact iff_of_true rfl hlt

/-- A mantissa is full, or its exponent is the least one: then pattern and number determine each
other. -/
theorem datum_of_pattern (hm : m < 2 ^ (x.kind.fractionBits + 1))
    (hfull : s = 0 ∨ 2 ^ x.kind.fractionBits ≤ m)
    (hpattern : x.pattern = s * 2 ^ x.kind.fractionBits + m)
    (hfinite : x.pattern < x.kind.infinityPattern) :
    x.datum = .finite x.negative m (x.kind.leastExponent + s) := by
  have hpos : 0 < 2 ^ x.kind.fractionBits := Nat.two_pow_pos _
  rw [datum, if_neg (Nat.lt_asymm hfinite), if_neg (Nat.ne_of_gt hfinite)]
  rw [pow_succ, Nat.mul_comm] at hm
  generalize 2 ^ x.kind.fractionBits = scale at *
  by_cases hsmall : m < scale
  · -- The exponent field is zero.
    obtain rfl : s = 0 := by omega
    have hdiv : x.pattern / scale = 0 := by
      rw [hpattern, Nat.zero_mul, Nat.zero_add, Nat.div_eq_of_lt hsmall]
    have hmod : x.pattern % scale = m := by
      rw [hpattern, Nat.zero_mul, Nat.zero_add, Nat.mod_eq_of_lt hsmall]
    rw [if_pos hdiv, hmod]
    simp
  · -- The exponent field is one more than the exponent, and the leading bit is not stored.
    have hsplit : x.pattern = (m - scale) + scale * (s + 1) := by
      rw [hpattern, Nat.mul_add, Nat.mul_comm s scale]
      omega
    have hdiv : x.pattern / scale = s + 1 := by
      rw [hsplit, Nat.add_mul_div_left _ _ hpos, Nat.div_eq_of_lt (by omega), Nat.zero_add]
    have hmod : x.pattern % scale = m - scale := by
      rw [hsplit, Nat.add_mul_mod_self_left, Nat.mod_eq_of_lt (by omega)]
    rw [hdiv, hmod, if_neg (Nat.succ_ne_zero s), Nat.add_sub_cancel,
      Nat.add_sub_cancel' (Nat.not_lt.1 hsmall)]

/-- Every finite pattern is put together in this way. -/
theorem exists_pattern_eq (x : BinaryFloat) :
    ∃ m s : ℕ, m < 2 ^ (x.kind.fractionBits + 1) ∧ (s = 0 ∨ 2 ^ x.kind.fractionBits ≤ m) ∧
      x.pattern = s * 2 ^ x.kind.fractionBits + m := by
  have hpos : 0 < 2 ^ x.kind.fractionBits := Nat.two_pow_pos _
  have hdecomp := Nat.div_add_mod' x.pattern (2 ^ x.kind.fractionBits)
  have hmod := Nat.mod_lt x.pattern hpos
  rw [pow_succ]
  cases hfield : x.pattern / 2 ^ x.kind.fractionBits with
  | zero =>
    rw [hfield] at hdecomp
    exact ⟨x.pattern % 2 ^ x.kind.fractionBits, 0, by omega, .inl rfl, by omega⟩
  | succ s =>
    rw [hfield, Nat.succ_mul] at hdecomp
    exact ⟨2 ^ x.kind.fractionBits + x.pattern % 2 ^ x.kind.fractionBits, s, by omega,
      .inr (by omega), by omega⟩

/-- A mantissa that was rounded up to the next power of two may stand in the pattern too. -/
theorem value?_of_pattern (hm : m ≤ 2 ^ (x.kind.fractionBits + 1))
    (hfull : s = 0 ∨ 2 ^ x.kind.fractionBits ≤ m)
    (hpattern : x.pattern = s * 2 ^ x.kind.fractionBits + m)
    (hfinite : x.pattern < x.kind.infinityPattern) :
    x.value? = some ((FloatDatum.signed x.negative m : ℚ) * 2 ^ (x.kind.leastExponent + s)) := by
  rcases Nat.lt_or_eq_of_le hm with hlt | heq
  · rw [value?, datum_of_pattern hlt hfull hpattern hfinite, FloatDatum.value?]
  · -- The next power of two is the least full mantissa one place higher.
    have hcarry : x.pattern = (s + 1) * 2 ^ x.kind.fractionBits + 2 ^ x.kind.fractionBits := by
      rw [hpattern, heq, pow_succ]
      ring
    have hlt : 2 ^ x.kind.fractionBits < 2 ^ (x.kind.fractionBits + 1) :=
      Nat.pow_lt_pow_right (by decide) (Nat.lt_succ_self _)
    rw [value?, datum_of_pattern hlt (.inr le_rfl) hcarry hfinite, FloatDatum.value?, heq, pow_succ,
      FloatDatum.signed_mul, Nat.cast_succ, ← add_assoc, zpow_add_one₀ two_ne_zero]
    push_cast
    ring_nf

theorem exists_value?_eq (hfinite : x.pattern < x.kind.infinityPattern) :
    ∃ m s : ℕ, m < 2 ^ (x.kind.fractionBits + 1) ∧ (s = 0 ∨ 2 ^ x.kind.fractionBits ≤ m) ∧
      x.pattern = s * 2 ^ x.kind.fractionBits + m ∧
        x.value? =
          some ((FloatDatum.signed x.negative m : ℚ) * 2 ^ (x.kind.leastExponent + s)) := by
  obtain ⟨m, s, hm, hfull, hpattern⟩ := x.exists_pattern_eq
  exact ⟨m, s, hm, hfull, hpattern, value?_of_pattern hm.le hfull hpattern hfinite⟩

theorem pattern_lt_of_value? {q : ℚ} (h : x.value? = some q) :
    x.pattern < x.kind.infinityPattern :=
  isFinite_datum_iff.1 (FloatDatum.isFinite_iff.2 ⟨q, h⟩)

/-! ## The range of the finite numbers -/

end BinaryFloat

theorem FloatDatum.abs_signed (negative : Bool) (m : ℕ) : |(signed negative m : ℚ)| = m := by
  cases negative <;> simp [signed]

namespace FloatKind

/-- The places are powers of two. -/
theorem zpow_mul_two_le {s t : ℕ} (e : ℤ) (h : t < s) : (2 : ℚ) ^ (e + t) * 2 ≤ 2 ^ (e + s) := by
  rw [← zpow_add_one₀ two_ne_zero]
  apply zpow_le_zpow_right₀ one_le_two
  omega

/-- The greatest exponent of a finite number, counted from the least one. -/
def places (k : FloatKind) : ℕ :=
  2 ^ k.exponentBits - 3

/-- The least magnitude that no finite number is nearest to: half a last place above the greatest
finite number. -/
def overflow (k : FloatKind) : ℚ :=
  (2 ^ (k.fractionBits + 1) - 1 / 2) * 2 ^ (k.leastExponent + k.places)

theorem infinityPattern_eq (k : FloatKind) :
    k.infinityPattern = (k.places + 2) * 2 ^ k.fractionBits := by
  cases k <;> rfl

theorem overflow_f32 : overflow .f32 = 2 ^ 128 - 2 ^ 103 := by
  norm_num [overflow, fractionBits, leastExponent, places, exponentBits]

theorem overflow_f64 : overflow .f64 = 2 ^ 1024 - 2 ^ 970 := by
  have hsplit : (2 : ℚ) ^ 1024 = 2 ^ 53 * 2 ^ 971 := by rw [← pow_add]
  have hhalf : (2 : ℚ) ^ 971 = 2 ^ 970 * 2 := pow_succ 2 970
  have hexponent : leastExponent .f64 + places .f64 = (971 : ℕ) := by decide
  rw [overflow, hexponent, zpow_natCast, hsplit, hhalf]
  generalize (2 : ℚ) ^ 970 = unit
  norm_num [fractionBits]
  ring

theorem overflow_f32_le (k : FloatKind) : overflow .f32 ≤ k.overflow := by
  cases k with
  | f32 => exact le_rfl
  | f64 =>
    have hsplit : (2 : ℚ) ^ 1024 = 2 ^ 54 * 2 ^ 970 := by rw [← pow_add]
    have hsmall : (2 : ℚ) ^ 128 ≤ 2 ^ 970 := pow_le_pow_right₀ one_le_two (by decide)
    rw [overflow_f32, overflow_f64, hsplit]
    generalize (2 : ℚ) ^ 970 = unit at hsmall ⊢
    norm_num at hsmall ⊢
    linarith

theorem overflow_le_f64 (k : FloatKind) : k.overflow ≤ overflow .f64 := by
  cases k with
  | f32 => exact overflow_f32_le .f64
  | f64 => exact le_rfl

/-- A mantissa has at most the digits before its place, so a number with all digits before a place
is written in no lower one. -/
theorem place_le {k : FloatKind} {m s t : ℕ} (hm : m < 2 ^ (k.fractionBits + 1))
    (hfull : s = 0 ∨
      2 ^ k.fractionBits * 2 ^ (k.leastExponent + s) ≤ (m : ℚ) * 2 ^ (k.leastExponent + t)) :
    s ≤ t := by
  rcases hfull with rfl | hfull
  · exact Nat.zero_le t
  · by_contra hts
    have hmQ : (m : ℚ) < 2 ^ (k.fractionBits + 1) := by exact_mod_cast hm
    have hunit : (0 : ℚ) < 2 ^ (k.leastExponent + t) := zpow_pos two_pos _
    apply not_lt.2 hfull
    calc (m : ℚ) * 2 ^ (k.leastExponent + t)
        < 2 ^ (k.fractionBits + 1) * 2 ^ (k.leastExponent + t) := mul_lt_mul_of_pos_right hmQ hunit
      _ = 2 ^ k.fractionBits * (2 ^ (k.leastExponent + t) * 2) := by
          rw [pow_succ]
          ring
      _ ≤ 2 ^ k.fractionBits * 2 ^ (k.leastExponent + s) :=
          mul_le_mul_of_nonneg_left (zpow_mul_two_le k.leastExponent (not_le.1 hts)) (by positivity)

/-- The finite numbers stay below. -/
theorem mul_lt_overflow {k : FloatKind} {m s : ℕ} (hm : m < 2 ^ (k.fractionBits + 1))
    (hs : s ≤ k.places) : (m : ℚ) * 2 ^ (k.leastExponent + s) < k.overflow := by
  have hm' : (m : ℚ) ≤ 2 ^ (k.fractionBits + 1) - 1 := by
    have hcast : ((m + 1 : ℕ) : ℚ) ≤ ((2 ^ (k.fractionBits + 1) : ℕ) : ℚ) := Nat.cast_le.2 hm
    push_cast at hcast
    linarith
  have hpow : (2 : ℚ) ^ (k.leastExponent + s) ≤ 2 ^ (k.leastExponent + k.places) := by
    apply zpow_le_zpow_right₀ one_le_two
    omega
  have hpos : (0 : ℚ) < 2 ^ (k.leastExponent + k.places) := zpow_pos two_pos _
  calc (m : ℚ) * 2 ^ (k.leastExponent + s)
      ≤ (2 ^ (k.fractionBits + 1) - 1) * 2 ^ (k.leastExponent + k.places) := by
        apply mul_le_mul hm' hpow (zpow_nonneg two_pos.le _)
        linarith [(Nat.cast_nonneg m : (0 : ℚ) ≤ m)]
    _ < k.overflow := by
        rw [overflow]
        apply mul_lt_mul_of_pos_right _ hpos
        linarith

end FloatKind

namespace BinaryFloat

variable {x y : BinaryFloat} {q : ℚ}

theorem abs_lt_overflow (h : x.value? = some q) : |q| < x.kind.overflow := by
  have hfinite := pattern_lt_of_value? h
  obtain ⟨m, s, hm, hfull, hpattern, hvalue⟩ := exists_value?_eq hfinite
  have hs : s ≤ x.kind.places := by
    rcases hfull with rfl | hfull
    · exact Nat.zero_le _
    · -- A full mantissa leaves room for that many places below the infinity.
      rw [x.kind.infinityPattern_eq, hpattern] at hfinite
      by_contra hlarge
      have hmul := Nat.mul_le_mul_right (2 ^ x.kind.fractionBits) (Nat.not_le.1 hlarge)
      rw [Nat.add_mul] at hfinite
      rw [Nat.succ_mul] at hmul
      omega
  rw [h, Option.some.injEq] at hvalue
  rw [hvalue, abs_mul, FloatDatum.abs_signed, abs_of_pos (zpow_pos two_pos _ : (0 : ℚ) < _)]
  exact FloatKind.mul_lt_overflow hm hs

/-! ## Equality -/

/-- A number is written in one way only. -/
theorem eq_of_mul_eq {k : FloatKind} {m n s t : ℕ} (hm : m < 2 ^ (k.fractionBits + 1))
    (hs : s = 0 ∨ 2 ^ k.fractionBits ≤ m) (hn : n < 2 ^ (k.fractionBits + 1))
    (ht : t = 0 ∨ 2 ^ k.fractionBits ≤ n)
    (heq : (m : ℚ) * 2 ^ (k.leastExponent + s) = n * 2 ^ (k.leastExponent + t)) :
    m = n ∧ s = t := by
  have hfull : ∀ i j : ℕ, 2 ^ k.fractionBits ≤ i →
      (2 : ℚ) ^ k.fractionBits * 2 ^ (k.leastExponent + j) ≤ i * 2 ^ (k.leastExponent + j) := by
    intro i j hi
    apply mul_le_mul_of_nonneg_right _ (zpow_nonneg two_pos.le _)
    exact_mod_cast hi
  have hst : s ≤ t := FloatKind.place_le hn (hs.imp_right fun hi => heq ▸ hfull m s hi)
  have hts : t ≤ s := FloatKind.place_le hm (ht.imp_right fun hi => heq ▸ hfull n t hi)
  obtain rfl := Nat.le_antisymm hst hts
  have hcancel := mul_right_cancel₀ (zpow_ne_zero _ two_ne_zero) heq
  exact ⟨Nat.cast_injective hcancel, rfl⟩

/-- The number determines the magnitude pattern, -/
theorem pattern_eq_of_value? (hkind : x.kind = y.kind) (hx : x.value? = some q)
    (hy : y.value? = some q) : x.pattern = y.pattern := by
  obtain ⟨m, s, hm, hs, hpx, hvx⟩ := exists_value?_eq (pattern_lt_of_value? hx)
  obtain ⟨n, t, hn, ht, hpy, hvy⟩ := exists_value?_eq (pattern_lt_of_value? hy)
  rw [hx, Option.some.injEq] at hvx
  rw [hy, Option.some.injEq] at hvy
  rw [← hkind] at hn ht hpy hvy
  have heq : (m : ℚ) * 2 ^ (x.kind.leastExponent + s) = n * 2 ^ (x.kind.leastExponent + t) := by
    have habs := congrArg abs (hvx.symm.trans hvy)
    rw [abs_mul, abs_mul, FloatDatum.abs_signed, FloatDatum.abs_signed, abs_zpow, abs_zpow,
      abs_two] at habs
    exact habs
  obtain ⟨rfl, rfl⟩ := eq_of_mul_eq hm hs hn ht heq
  rw [hpx, hpy]

/-- and the sign, unless it is zero. -/
theorem negative_iff_of_value? (hx : x.value? = some q) (hq : q ≠ 0) : x.negative ↔ q < 0 := by
  obtain ⟨m, s, -, -, -, hvalue⟩ := exists_value?_eq (pattern_lt_of_value? hx)
  rw [hx, Option.some.injEq] at hvalue
  have hunit : (0 : ℚ) < 2 ^ (x.kind.leastExponent + s) := zpow_pos two_pos _
  have hm : (0 : ℚ) < m := by
    rcases Nat.eq_zero_or_pos m with rfl | hpos
    · exact absurd (by rw [hvalue]; simp [FloatDatum.signed]) hq
    · exact Nat.cast_pos.2 hpos
  rw [hvalue, mul_neg_iff]
  cases x.negative with
  | false => simp [FloatDatum.signed, hunit.le, hm.le]
  | true => simp [FloatDatum.signed, hunit, Nat.cast_pos.1 hm]

theorem isZero_iff : x.isZero ↔ x.value? = some 0 := by
  constructor
  · intro h
    have hpattern : x.pattern = 0 := beq_iff_eq.1 h
    have hfinite : x.pattern < x.kind.infinityPattern := by
      rw [hpattern]
      cases x.kind <;> decide
    obtain ⟨m, s, -, -, hsum, hvalue⟩ := exists_value?_eq hfinite
    obtain rfl : m = 0 := by omega
    rw [hvalue]
    simp [FloatDatum.signed]
  · intro h
    obtain ⟨m, s, -, hfull, hpattern, hvalue⟩ := exists_value?_eq (pattern_lt_of_value? h)
    rw [h, Option.some.injEq] at hvalue
    have hm : m = 0 := by
      have habs := congrArg abs hvalue
      rw [abs_zero, abs_mul, FloatDatum.abs_signed, eq_comm, mul_eq_zero, abs_eq_zero] at habs
      exact Nat.cast_eq_zero.1 (habs.resolve_right (zpow_ne_zero _ two_ne_zero))
    have hs : s = 0 := by
      apply hfull.resolve_right
      rw [hm]
      exact Nat.not_le.2 (Nat.two_pow_pos _)
    rw [isZero, beq_iff_eq, hpattern, hm, hs, Nat.zero_mul]

theorem isNaN_of_value? (h : x.value? = some q) : x.isNaN = false := by
  rw [isNaN, beq_eq_false_iff_ne]
  intro hnan
  rw [value?, hnan] at h
  cases h

/-- Two finite numbers of one kind are equal exactly if their exact numbers are. -/
theorem equals_iff_value? (hkind : x.kind = y.kind) (hy : y.value? = some q) :
    x.equals y ↔ x.value? = some q := by
  constructor
  · intro h
    simp only [equals, Bool.and_eq_true, Bool.or_eq_true, beq_iff_eq] at h
    rcases h.2 with ⟨hx, hzero⟩ | rfl
    · rw [isZero_iff.1 hx, ← hy, isZero_iff.1 hzero]
    · exact hy
  · intro hx
    have hpattern := pattern_eq_of_value? hkind hx hy
    simp only [equals, isNaN_of_value? hx, isNaN_of_value? hy, Bool.and_eq_true, Bool.or_eq_true,
      beq_iff_eq, Bool.not_false, and_true]
    refine ⟨hkind, ?_⟩
    by_cases hq : q = 0
    · -- The two zeros differ in the sign only.
      subst hq
      exact .inl ⟨isZero_iff.2 hx, isZero_iff.2 hy⟩
    · right
      have hsign : x.negative = y.negative := by
        rw [Bool.eq_iff_iff, negative_iff_of_value? hx hq, negative_iff_of_value? hy hq]
      cases x
      cases y
      simp_all

end BinaryFloat

end Reflection
