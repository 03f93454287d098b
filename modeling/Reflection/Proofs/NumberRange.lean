import Reflection.Proofs.IntegerKinds
import Reflection.Proofs.WholeNumbers

/-!
# The range check of conversions between numbers

`Value.quantity?` is the exact number that a value stands for. An integer kind takes exactly that
number or refuses it. A floating-point kind refuses nothing: it takes the nearest number it has,
and from `FloatKind.overflow` on that is an infinity.

Main statement: `Value.checksRange`. Of all conversions only the one from the wide floating-point
kind to the narrow one makes an infinity of a finite number, and `Value.range_unchecked` shows that
it does.
-/

set_option autoImplicit false

namespace Reflection

-- Powers are computed by the power of the numbers, not by the one of monoids.
attribute [local instance (high)] instPowNat

namespace Value

variable {v w : Value} {q : ℚ} {type : TypeRef}

/-- The exact number that a value stands for, if it is a finite one. -/
def quantity? : Value → Option ℚ
  | int n => some n.value
  | float x => x.value?
  | _ => none

/-! ## Integer kinds -/

section Integers

variable {kind : IntKind}

/-- An integer kind takes the number itself. -/
theorem quantity?_of_coerce (hcore : type.core = .number (.int kind)) (hv : v.quantity? = some q)
    (h : type.coerce v = .ok w) :
    ∃ n : BoundedInt, n.kind = kind ∧ w = .int n ∧ (n.value : ℚ) = q := by
  cases v with
  | int m =>
    obtain ⟨n, hkind, hvalue, rfl⟩ := (TypeRef.coerce_int_eq_ok_iff hcore).1 h
    refine ⟨n, hkind, rfl, ?_⟩
    rw [hvalue]
    exact Option.some.inj hv
  | float x =>
    obtain ⟨n, hkind, hvalue, rfl⟩ := (TypeRef.coerce_float_eq_ok_iff hcore).1 h
    refine ⟨n, hkind, rfl, ?_⟩
    exact Option.some.inj (hvalue.symm.trans hv)
  | _ => cases hv

theorem ne_null_of_quantity? (hv : v.quantity? = some q) : v ≠ .null := by
  rintro rfl
  cases hv

end Integers

/-! ## Floating-point kinds -/

section Floats

variable {kind : FloatKind}

/-- A floating-point kind takes the nearest number it has. -/
theorem exists_coerce_eq (hcore : type.core = .number (.float kind)) (hv : v.quantity? = some q) :
    ∃ (negative : Bool) (num den : ℕ), 0 < den ∧ (num : ℚ) / den = |q| ∧
      (q ≠ 0 → (negative ↔ q < 0)) ∧
        type.coerce v = .ok (.float (.ofRatio kind negative num den)) := by
  cases v with
  | int n =>
    obtain rfl := Option.some.inj hv
    refine ⟨decide (n.value < 0), n.value.natAbs, 1, Nat.one_pos,
      BinaryFloat.natAbs_div_one n.value, fun _ => ?_, ?_⟩
    · rw [decide_eq_true_iff, Int.cast_lt_zero]
    · rw [type.coerce_core (by simp), hcore, TypeRef.coerce_number_eq_ok_iff, toNumber?]
      rfl
  | float x =>
    obtain ⟨num, den, hden, hratio, hconvert⟩ := BinaryFloat.exists_convert_eq kind hv
    refine ⟨x.negative, num, den, hden, hratio, BinaryFloat.negative_iff_of_value? hv, ?_⟩
    rw [type.coerce_core (by simp), hcore, TypeRef.coerce_number_eq_ok_iff, toNumber?, hconvert]
  | _ => cases hv

/-- The result is finite exactly below the overflow, -/
theorem exists_coerce_finite_iff (hcore : type.core = .number (.float kind))
    (hv : v.quantity? = some q) :
    ∃ x : BinaryFloat, x.kind = kind ∧ type.coerce v = .ok (.float x) ∧
      ((∃ r, x.value? = some r) ↔ |q| < kind.overflow) := by
  obtain ⟨negative, num, den, hden, hratio, -, hcoerce⟩ := exists_coerce_eq hcore hv
  refine ⟨.ofRatio kind negative num den, rfl, hcoerce, ?_⟩
  rw [← hratio, ← BinaryFloat.isFinite_ofRatio_iff kind negative num hden]
  exact FloatDatum.isFinite_iff.symm

/-- and the infinity of the same sign from there on. -/
theorem coerce_eq_infinity (hcore : type.core = .number (.float kind)) (hv : v.quantity? = some q)
    (h : kind.overflow ≤ |q|) : type.coerce v = .ok (.float (.infinity kind (q < 0))) := by
  obtain ⟨negative, num, den, hden, hratio, hsign, hcoerce⟩ := exists_coerce_eq hcore hv
  have hq : q ≠ 0 := by
    rintro rfl
    rw [abs_zero] at h
    exact absurd kind.overflow_pos (not_lt.2 h)
  have hnegative : negative = decide (q < 0) := by
    rw [Bool.eq_iff_iff, hsign hq, decide_eq_true_iff]
  rw [hcoerce, BinaryFloat.ofRatio_eq_infinity negative hden (hratio ▸ h), hnegative]

/-- The integers of all kinds are below. -/
theorem abs_value_lt_overflow (n : BoundedInt) (kind : FloatKind) :
    |(n.value : ℚ)| < kind.overflow := by
  have hleast : -(2 ^ 64) ≤ n.kind.least := by
    cases n.kind <;> decide
  have hgreatest : n.kind.greatest ≤ 2 ^ 64 := by
    cases n.kind <;> decide
  have habs : |n.value| ≤ 2 ^ 64 :=
    abs_le.2 ⟨hleast.trans n.holds.1, n.holds.2.trans hgreatest⟩
  have hcast : |(n.value : ℚ)| ≤ 2 ^ 64 := by exact_mod_cast habs
  have hlarge : (2 : ℚ) ^ 64 < FloatKind.overflow .f32 := by
    rw [FloatKind.overflow_f32]
    norm_num
  exact hcast.trans_lt (hlarge.trans_le kind.overflow_f32_le)

/-- A finite number stays below the overflow of a kind, unless it is a wide one and the kind is the
narrow one. -/
theorem abs_lt_overflow_of_not (hv : v.quantity? = some q)
    (h : ¬(v.numKind? = some (.float .f64) ∧ kind = .f32 ∧ 2 ^ 128 - 2 ^ 103 ≤ |q|)) :
    |q| < kind.overflow := by
  cases v with
  | int n =>
    obtain rfl := Option.some.inj hv
    exact abs_value_lt_overflow n kind
  | float x =>
    have hself := BinaryFloat.abs_lt_overflow hv
    cases kind with
    | f64 => exact hself.trans_le x.kind.overflow_le_f64
    | f32 =>
      cases hkind : x.kind with
      | f32 => rwa [hkind] at hself
      | f64 =>
        rw [numKind?, hkind] at h
        rw [FloatKind.overflow_f32]
        exact not_le.1 fun hle => h ⟨rfl, rfl, hle⟩
  | _ => cases hv

end Floats

/-! ## All kinds -/

/-- What conversion to a declared type of numbers, behind any layers of null, does with the range of
the type. -/
structure ChecksRange (v : Value) : Prop where
  /-- An integer kind takes the number itself, -/
  takes : ∀ (q : ℚ) (type : TypeRef) (kind : IntKind) (w : Value), v.quantity? = some q →
    type.core = .number (.int kind) → type.coerce v = .ok w → w.quantity? = some q
  /-- and refuses what is out of its range. -/
  refuses : ∀ (q : ℚ) (type : TypeRef) (kind : IntKind), v.quantity? = some q →
    type.core = .number (.int kind) → q < kind.least ∨ kind.greatest < q →
      type.coerce v = .error (v.refuse (.number (.int kind)))
  /-- A floating-point kind refuses no number; below the overflow it takes a finite one, -/
  rounds : ∀ (q : ℚ) (type : TypeRef) (kind : FloatKind), v.quantity? = some q →
    type.core = .number (.float kind) →
      ∃ x : BinaryFloat, x.kind = kind ∧ type.coerce v = .ok (.float x) ∧
        ((∃ r, x.value? = some r) ↔ |q| < kind.overflow)
  /-- and from there on the infinity. -/
  overflows : ∀ (q : ℚ) (type : TypeRef) (kind : FloatKind), v.quantity? = some q →
    type.core = .number (.float kind) → kind.overflow ≤ |q| →
      type.coerce v = .ok (.float (.infinity kind (q < 0)))
  /-- That happens to wide floating-point numbers in the narrow kind only: every other conversion of
  a finite number that succeeds gives one. -/
  finite : ∀ (q : ℚ) (type : TypeRef) (kind : NumKind) (w : Value), v.quantity? = some q →
    type.core = .number kind → type.coerce v = .ok w →
      ¬(v.numKind? = some (.float .f64) ∧ kind = .float .f32 ∧ 2 ^ 128 - 2 ^ 103 ≤ |q|) →
        ∃ r, w.quantity? = some r

/-- Integer kinds check their range, floating-point kinds do not. -/
theorem checksRange (v : Value) : v.ChecksRange where
  takes q type kind w hv hcore h := by
    obtain ⟨n, -, rfl, rfl⟩ := quantity?_of_coerce hcore hv h
    rfl
  refuses q type kind hv hcore hout := by
    apply TypeRef.coerce_eq_refuse hcore (ne_null_of_quantity? hv)
    intro w hw
    obtain ⟨n, rfl, -, rfl⟩ := quantity?_of_coerce hcore hv hw
    rcases hout with hlow | hhigh
    · exact not_le.2 (Int.cast_lt.1 hlow) n.holds.1
    · exact not_le.2 (Int.cast_lt.1 hhigh) n.holds.2
  rounds q type kind hv hcore := exists_coerce_finite_iff hcore hv
  overflows q type kind hv hcore := coerce_eq_infinity hcore hv
  finite q type kind w hv hcore h hnarrow := by
    cases kind with
    | int kind =>
      obtain ⟨n, -, rfl, -⟩ := quantity?_of_coerce hcore hv h
      exact ⟨n.value, rfl⟩
    | float kind =>
      obtain ⟨x, -, hcoerce, hfinite⟩ := exists_coerce_finite_iff hcore hv
      rw [h] at hcoerce
      obtain rfl := Except.ok.inj hcoerce
      apply hfinite.2
      apply abs_lt_overflow_of_not hv
      rintro ⟨hwide, rfl, hlarge⟩
      exact hnarrow ⟨hwide, rfl, hlarge⟩

/-- The range of the narrow kind is not checked: `2 ^ 128` as a wide number becomes infinite. -/
theorem range_unchecked :
    (float (.ofBits .f64 0x47f0000000000000)).quantity? = some (2 ^ 128) ∧
      (TypeRef.number (.float .f32)).coerce (float (.ofBits .f64 0x47f0000000000000)) =
        .ok (float (.infinity .f32 false)) ∧
      (float (.infinity .f32 false)).quantity? = none := by
  have hdatum : (BinaryFloat.ofBits .f64 0x47f0000000000000).datum = .finite false (2 ^ 52) 76 := by
    decide
  refine ⟨?_, by decide +kernel, rfl⟩
  rw [quantity?, BinaryFloat.value?, hdatum, FloatDatum.value?, FloatDatum.signed]
  norm_num

end Value

end Reflection
