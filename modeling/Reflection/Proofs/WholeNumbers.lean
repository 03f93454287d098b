import Reflection.Proofs.CanonicalValues
import Reflection.Proofs.Rounding

/-!
# Floating-point numbers that are integers

A floating-point number converts to an integer kind exactly if it is an integer that the kind holds.
`BoundedInt.ofFloat?` compares exact numbers. `BoundedInt.recover?` tells it by rounding: it cuts
the fraction off and compares the result, as a number of the wide floating-point kind, with the
number it came from. This is sound at the bounds of the integer kinds too, which the wide kind does
not have, because it has the integer part of every number of its own
(`BinaryFloat.value?_ofInt_towardZero`).

Main statement: `IntKind.takesWhole`.
-/

set_option autoImplicit false

namespace Reflection

/-- Cutting off the fraction does not depend on the sign. -/
theorem abs_towardZero (q : ℚ) : |towardZero q| = ⌊|q|⌋ := by
  rcases le_or_gt 0 q with hpos | hneg
  · rw [towardZero, if_pos hpos, abs_of_nonneg hpos, abs_of_nonneg (Int.floor_nonneg.2 hpos)]
  · have hceil : ⌈q⌉ ≤ 0 := by
      rw [Int.ceil_le]
      exact_mod_cast hneg.le
    rw [towardZero, if_neg (not_le.2 hneg), abs_of_neg hneg, abs_of_nonpos hceil, Int.floor_neg]

namespace BinaryFloat

variable {x : BinaryFloat} {q : ℚ}

theorem value?_eq_none_iff : x.value? = none ↔ x.isNaN ∨ x.isInfinite := by
  rw [value?, isNaN, isInfinite, datum]
  split
  · simp [FloatDatum.value?]
  · split
    · rename_i heq
      simp [FloatDatum.value?, heq]
    · rename_i hne
      split <;> simp [FloatDatum.value?, Ne.symm hne]

/-- The same number in the wide kind. -/
def widen (x : BinaryFloat) : BinaryFloat :=
  match x.kind with
  | .f32 => x.convert .f64
  | .f64 => x

theorem kind_widen (x : BinaryFloat) : x.widen.kind = .f64 := by
  rw [widen]
  split
  · exact kind_convert .f64 x
  · assumption

theorem value?_widen (x : BinaryFloat) : x.widen.value? = x.value? := by
  rw [widen]
  split
  · cases hvalue : x.value? with
    | some q => exact value?_convert_f64 hvalue
    | none =>
      rw [value?] at hvalue
      rw [convert]
      cases hdatum : x.datum with
      | finite negative m e =>
        rw [hdatum] at hvalue
        cases hvalue
      | infinite negative => cases negative <;> decide
      | nan => decide
  · rfl

/-- The wide kind has the integer parts of its numbers. -/
theorem value?_ofInt_towardZero (h : x.value? = some q) :
    (ofInt .f64 (towardZero q)).value? = some (towardZero q : ℚ) := by
  obtain ⟨m, t, hm, hq⟩ := exists_abs_eq_f64 h
  have hleast : FloatKind.f64.leastExponent = -(1074 : ℕ) := by decide
  have habs : |(towardZero q : ℚ)| = (⌊|q|⌋ : ℤ) := by
    rw [← abs_towardZero, Int.cast_abs]
  have hrange : |(towardZero q : ℚ)| < FloatKind.overflow .f64 := by
    rw [habs]
    exact (Int.floor_le |q|).trans_lt ((abs_lt_overflow h).trans_le x.kind.overflow_le_f64)
  rcases Nat.lt_or_ge t 1074 with hfraction | hwhole
  · -- The integer part has fewer digits than the mantissa.
    have hexponent : FloatKind.f64.leastExponent + t = -((1074 - t : ℕ) : ℤ) := by omega
    have hfloor : ⌊|q|⌋ = (m / 2 ^ (1074 - t) : ℕ) := by
      rw [hq, hexponent, zpow_neg, zpow_natCast, ← div_eq_mul_inv]
      have hdiv := Rat.floor_intCast_div_natCast (m : ℤ) (2 ^ (1074 - t))
      push_cast at hdiv ⊢
      exact hdiv
    apply value?_ofInt (Nat.lt_of_le_of_lt (Nat.div_le_self m (2 ^ (1074 - t))) hm) _ hrange
    · exact 1074
    · rw [habs, hfloor, hleast, neg_add_cancel, zpow_zero, mul_one, Int.cast_natCast]
  · -- There is no fraction.
    have hexponent : FloatKind.f64.leastExponent + t = (t - 1074 : ℕ) := by omega
    have hfloor : ⌊|q|⌋ = (m * 2 ^ (t - 1074) : ℕ) := by
      rw [hq, hexponent, zpow_natCast]
      exact_mod_cast Int.floor_natCast (m * 2 ^ (t - 1074))
    apply value?_ofInt hm _ hrange
    · exact t
    · rw [habs, hfloor, hexponent, zpow_natCast]
      push_cast
      rfl

end BinaryFloat

namespace BoundedInt

variable {kind : IntKind} {x : BinaryFloat} {n : BoundedInt}

theorem ofFloat?_eq_some_iff :
    ofFloat? kind x = some n ↔ n.kind = kind ∧ x.value? = some (n.value : ℚ) := by
  simp only [ofFloat?, Option.bind_eq_bind, Option.bind_eq_some_iff]
  constructor
  · rintro ⟨whole, -, m, hm, hif⟩
    split at hif
    · rename_i hdenotes
      obtain rfl := Option.some.inj hif
      obtain ⟨hkind, rfl⟩ := ofInt?_eq_some_iff.1 hm
      exact ⟨hkind, FloatDatum.denotes_iff.1 hdenotes⟩
    · cases hif
  · rintro ⟨hkind, hvalue⟩
    refine ⟨n.value, ?_, n, ofInt?_eq_some_iff.2 ⟨hkind, rfl⟩, ?_⟩
    · rw [FloatDatum.truncate_eq, ← BinaryFloat.value?, hvalue, Option.map_some, towardZero_intCast]
    · rw [if_pos (FloatDatum.denotes_iff.2 hvalue)]

/-- The integer that a floating-point number is, told from its integer part. -/
def recover? (kind : IntKind) (x : BinaryFloat) : Option BoundedInt := do
  let whole ← x.widen.datum.truncate
  let n ← ofInt? kind whole
  if (BinaryFloat.ofInt .f64 n.value).equals x.widen then some n else none

theorem recover?_eq_some_iff :
    recover? kind x = some n ↔ n.kind = kind ∧ x.value? = some (n.value : ℚ) := by
  simp only [recover?, Option.bind_eq_bind, Option.bind_eq_some_iff, FloatDatum.truncate_eq,
    Option.map_eq_some_iff]
  rw [← BinaryFloat.value?, x.value?_widen]
  constructor
  · rintro ⟨whole, ⟨q, hq, rfl⟩, m, hm, hif⟩
    split at hif
    · rename_i hequals
      obtain rfl := Option.some.inj hif
      obtain ⟨hkind, hvalue⟩ := ofInt?_eq_some_iff.1 hm
      refine ⟨hkind, ?_⟩
      -- The integer part is a number of the wide kind, so comparing it there is comparing it.
      rw [BinaryFloat.equals_iff_value? x.kind_widen.symm (x.value?_widen.trans hq), hvalue,
        BinaryFloat.value?_ofInt_towardZero hq] at hequals
      rw [hq, hvalue, hequals]
    · cases hif
  · rintro ⟨hkind, hvalue⟩
    refine ⟨n.value, ⟨n.value, hvalue, towardZero_intCast n.value⟩, n,
      ofInt?_eq_some_iff.2 ⟨hkind, rfl⟩, ?_⟩
    have hself := BinaryFloat.value?_ofInt_towardZero hvalue
    rw [towardZero_intCast] at hself
    rw [if_pos ((BinaryFloat.equals_iff_value? x.kind_widen.symm
      (x.value?_widen.trans hvalue)).2 hself)]

/-- Both ways to tell it agree. -/
theorem recover?_eq_ofFloat? (kind : IntKind) (x : BinaryFloat) :
    recover? kind x = ofFloat? kind x := by
  apply Option.ext
  intro n
  rw [recover?_eq_some_iff, ofFloat?_eq_some_iff]

-- The wide kind has the first integer past the greatest `i64`, but not that one itself.
example : (recover? .i64 (.ofInt .f64 (2 ^ 63)), recover? .i64 (.ofInt .f64 (2 ^ 63 - 1))) =
    (none, none) := by
  decide +kernel

end BoundedInt

namespace TypeRef

variable {type : TypeRef} {kind : IntKind} {x : BinaryFloat} {w : Value}

/-- A floating-point number converts to the integer that it is, behind any layers of null. -/
theorem coerce_float_eq_ok_iff (hcore : type.core = number (.int kind)) :
    type.coerce (.float x) = .ok w ↔
      ∃ n : BoundedInt, n.kind = kind ∧ x.value? = some (n.value : ℚ) ∧ w = .int n := by
  rw [type.coerce_core (by simp), hcore, coerce_number_eq_ok_iff, Value.toNumber?,
    Option.map_eq_some_iff]
  refine exists_congr fun n => ?_
  rw [BoundedInt.ofFloat?_eq_some_iff, and_assoc, eq_comm (a := w)]

/-- A value that does not convert is refused for the kind, whatever layers of null are around it. -/
theorem coerce_eq_refuse {kind : NumKind} {v : Value} (hcore : type.core = number kind)
    (hv : v ≠ .null) (h : ∀ w, type.coerce v ≠ .ok w) :
    type.coerce v = .error (v.refuse (number kind)) := by
  rw [type.coerce_core hv, hcore] at h ⊢
  have hnone : v.toNumber? kind = none := by
    rw [Option.eq_none_iff_forall_ne_some]
    intro w hw
    exact h w (coerce_number_eq_ok_iff.2 hw)
  cases v with
  | null => exact absurd rfl hv
  | _ => rw [coerce, hnone]

end TypeRef

namespace IntKind

theorem holds_zero (kind : IntKind) : kind.Holds 0 := by
  cases kind <;> decide

/-- Conversion from floating-point numbers to an integer kind, behind any layers of null. -/
structure TakesWhole (kind : IntKind) : Prop where
  /-- A number converts exactly if it is an integer that the kind holds, -/
  whole : ∀ (x : BinaryFloat) (type : TypeRef), type.core = .number (.int kind) →
    ((∃ w, type.coerce (.float x) = .ok w) ↔ ∃ n : ℤ, x.value? = some (n : ℚ) ∧ kind.Holds n)
  /-- and it becomes that integer. -/
  same : ∀ (x : BinaryFloat) (type : TypeRef) (w : Value), type.core = .number (.int kind) →
    (type.coerce (.float x) = .ok w ↔
      ∃ n : BoundedInt, n.kind = kind ∧ x.value? = some (n.value : ℚ) ∧ w = .int n)
  /-- Both zeros become zero. -/
  zero : ∀ (x : BinaryFloat) (type : TypeRef), x.isZero → type.core = .number (.int kind) →
    type.coerce (.float x) = .ok (.int ⟨kind, 0, kind.holds_zero⟩)
  /-- Infinities and what is no number are refused. -/
  refuses : ∀ (x : BinaryFloat) (type : TypeRef), x.isNaN ∨ x.isInfinite →
    type.core = .number (.int kind) →
      type.coerce (.float x) = .error ((Value.float x).refuse (.number (.int kind)))
  /-- All other patterns stand for exact numbers. -/
  finite : ∀ x : BinaryFloat, ¬(x.isNaN ∨ x.isInfinite) → ∃ q, x.value? = some q
  /-- The integer part, compared as a number of the wide kind, tells the same. -/
  recovered : ∀ x : BinaryFloat, BoundedInt.recover? kind x = BoundedInt.ofFloat? kind x

/-- Floating-point numbers convert to an integer kind exactly if they are integers of it. -/
theorem takesWhole (kind : IntKind) : kind.TakesWhole where
  whole x type hcore := by
    constructor
    · rintro ⟨w, hw⟩
      obtain ⟨n, rfl, hvalue, -⟩ := (TypeRef.coerce_float_eq_ok_iff hcore).1 hw
      exact ⟨n.value, hvalue, n.holds⟩
    · rintro ⟨n, hvalue, hholds⟩
      exact ⟨.int ⟨kind, n, hholds⟩,
        (TypeRef.coerce_float_eq_ok_iff hcore).2 ⟨⟨kind, n, hholds⟩, rfl, hvalue, rfl⟩⟩
  same _ _ _ hcore := TypeRef.coerce_float_eq_ok_iff hcore
  zero x type hzero hcore := by
    rw [TypeRef.coerce_float_eq_ok_iff hcore]
    exact ⟨⟨kind, 0, kind.holds_zero⟩, rfl, BinaryFloat.isZero_iff.1 hzero, rfl⟩
  refuses x type hx hcore := by
    apply TypeRef.coerce_eq_refuse hcore (by simp)
    intro w hw
    obtain ⟨n, -, hvalue, -⟩ := (TypeRef.coerce_float_eq_ok_iff hcore).1 hw
    rw [BinaryFloat.value?_eq_none_iff.2 hx] at hvalue
    cases hvalue
  finite x hx := by
    rw [← Option.ne_none_iff_exists']
    exact mt BinaryFloat.value?_eq_none_iff.1 hx
  recovered := BoundedInt.recover?_eq_ofFloat? kind

end IntKind

end Reflection
