import Reflection.Number.Kind

/-!
# Binary floating-point numbers

A floating-point number is a bit pattern of its kind. `BinaryFloat.datum` reads a pattern as the
exact number that it denotes, mantissa times a power of two, or as an infinity or as no number.
All arithmetic is exact arithmetic on such data followed by one rounding,
`BinaryFloat.ofScaled`: to the nearest pattern, a tie to the even one, and to an infinity past
the greatest finite number.

* `FloatDatum.truncate` and `FloatDatum.denotes` connect floating-point data with integers.
* `BinaryFloat.convert` changes the kind, `BinaryFloat.equals` is numerical equality.
* `BinaryFloat.times` and `BinaryFloat.dividedBy` are rounded multiplication and division.
-/

set_option autoImplicit false

namespace Reflection

-- Powers are computed by the power of the numbers, not by the one of monoids.
attribute [local instance (high)] instPowNat

namespace FloatKind

/-- The number of bits of the fraction field. -/
def fractionBits : FloatKind → Nat
  | f32 => 23
  | f64 => 52

/-- The number of bits of the exponent field. -/
def exponentBits : FloatKind → Nat
  | f32 => 8
  | f64 => 11

/-- The number of bits of a pattern without its sign. -/
def magnitudeBits (k : FloatKind) : Nat :=
  k.exponentBits + k.fractionBits

/-- The number of bits of a pattern. -/
def width (k : FloatKind) : Nat :=
  k.magnitudeBits + 1

/-- The power of two that the last place of the smallest numbers stands for. -/
def leastExponent (k : FloatKind) : Int :=
  2 - (2 ^ (k.exponentBits - 1) : Nat) - k.fractionBits

/-- The magnitude pattern of the infinities. Smaller patterns are finite, larger ones are no
numbers. -/
def infinityPattern (k : FloatKind) : Nat :=
  (2 ^ k.exponentBits - 1) * 2 ^ k.fractionBits

theorem nanPattern_lt (k : FloatKind) :
    k.infinityPattern + 2 ^ (k.fractionBits - 1) < 2 ^ k.magnitudeBits := by
  cases k <;> decide

theorem infinityPattern_lt (k : FloatKind) : k.infinityPattern < 2 ^ k.magnitudeBits :=
  Nat.lt_of_le_of_lt (Nat.le_add_right ..) k.nanPattern_lt

end FloatKind

/-- What a bit pattern denotes: no number, an infinity, or `mantissa * 2 ^ exponent` with a
sign. -/
inductive FloatDatum where
  | nan
  | infinite (negative : Bool)
  | finite (negative : Bool) (mantissa : Nat) (exponent : Int)
  deriving DecidableEq, Repr

namespace FloatDatum

/-- `n` with the given sign. -/
def signed (negative : Bool) (n : Nat) : Int :=
  if negative then -(n : Int) else n

/-- The integer part, with the fraction cut off toward zero. -/
def truncate : FloatDatum → Option Int
  | finite negative m (.ofNat e) => some (signed negative (m * 2 ^ e))
  | finite negative m (.negSucc e) => some (signed negative (m / 2 ^ (e + 1)))
  | _ => none

/-- Whether the datum is exactly the integer `n`. -/
def denotes (n : Int) : FloatDatum → Bool
  | finite negative m (.ofNat e) => signed negative m * 2 ^ e == n
  | finite negative m (.negSucc e) => signed negative m == n * 2 ^ (e + 1)
  | _ => false

/-- Whether the datum is a finite number. -/
def isFinite : FloatDatum → Bool
  | finite .. => true
  | _ => false

end FloatDatum

/-- The quotient of two natural numbers rounded to the nearest one, a tie to the even one. -/
def divNearestEven (num den : Nat) : Nat :=
  let low := num / den
  let rest := 2 * (num % den)
  if rest < den then low
  else if den < rest then low + 1
  else if low % 2 = 0 then low else low + 1

/-- The fraction `num / den` divided by `2 ^ exponent`, as a fraction. -/
def scaleDown (num den : Nat) : Int → Nat × Nat
  | .ofNat e => (num, den * 2 ^ e)
  | .negSucc e => (num * 2 ^ (e + 1), den)

namespace FloatKind

/-- The power of two that the last place stands for in the numbers of kind `k` around
`num / den`. -/
def lastPlace (k : FloatKind) (num den : Nat) : Int :=
  -- The quotient lies between two neighbouring powers of two, so this is off by one at most.
  let low := max k.leastExponent ((num.log2 : Int) - den.log2 - 1 - k.fractionBits)
  let (n, d) := scaleDown num den low
  if n / d < 2 ^ (k.fractionBits + 1) then low else low + 1

/-- The magnitude pattern nearest to `num / den`, a tie going to the even one. Patterns of
neighbouring numbers are neighbours, so rounding up past a power of two needs no case of its
own, and everything past the finite patterns is the infinity. -/
def magnitude (k : FloatKind) (num den : Nat) : Nat :=
  let e := k.lastPlace num den
  let (n, d) := scaleDown num den e
  min k.infinityPattern
    ((e - k.leastExponent).toNat * 2 ^ k.fractionBits + divNearestEven n d)

theorem magnitude_le (k : FloatKind) (num den : Nat) :
    k.magnitude num den ≤ k.infinityPattern :=
  Nat.min_le_left ..

end FloatKind

/-- A floating-point number of either kind, as a bit pattern. -/
structure BinaryFloat where
  /-- The kind of the number. -/
  kind : FloatKind
  /-- The sign bit. -/
  negative : Bool
  /-- The exponent and fraction fields. -/
  pattern : Nat
  /-- The fields have the width of the kind. -/
  pattern_lt : pattern < 2 ^ kind.magnitudeBits
  deriving DecidableEq

namespace BinaryFloat

/-- The whole bit pattern, sign included. -/
def bits (x : BinaryFloat) : Nat :=
  (if x.negative then 2 ^ x.kind.magnitudeBits else 0) + x.pattern

/-- The number of kind `k` with a given bit pattern; bits past the width are dropped. -/
def ofBits (k : FloatKind) (bits : Nat) : BinaryFloat where
  kind := k
  negative := bits / 2 ^ k.magnitudeBits % 2 = 1
  pattern := bits % 2 ^ k.magnitudeBits
  pattern_lt := Nat.mod_lt _ (Nat.two_pow_pos _)

/-- No number. -/
def nan (k : FloatKind) : BinaryFloat :=
  ⟨k, false, k.infinityPattern + 2 ^ (k.fractionBits - 1), k.nanPattern_lt⟩

/-- The infinity of either sign. -/
def infinity (k : FloatKind) (negative : Bool) : BinaryFloat :=
  ⟨k, negative, k.infinityPattern, k.infinityPattern_lt⟩

/-- The number that the pattern denotes. -/
def datum (x : BinaryFloat) : FloatDatum :=
  let scale := 2 ^ x.kind.fractionBits
  let field := x.pattern / scale
  let fraction := x.pattern % scale
  if x.kind.infinityPattern < x.pattern then .nan
  else if x.kind.infinityPattern = x.pattern then .infinite x.negative
  else if field = 0 then .finite x.negative fraction x.kind.leastExponent
  else .finite x.negative (scale + fraction) (x.kind.leastExponent + (field - 1 : Nat))

/-- The number nearest to `num / den`, with the given sign. -/
def ofRatio (k : FloatKind) (negative : Bool) (num den : Nat) : BinaryFloat where
  kind := k
  negative := negative
  pattern := if num = 0 then 0 else k.magnitude num den
  pattern_lt := by
    split
    · exact Nat.two_pow_pos _
    · exact Nat.lt_of_le_of_lt (k.magnitude_le num den) k.infinityPattern_lt

/-- The number nearest to `num / den * 2 ^ exponent`, with the given sign. -/
def ofScaled (k : FloatKind) (negative : Bool) (num den : Nat) (exponent : Int) : BinaryFloat :=
  let (n, d) := scaleDown num den (-exponent)
  ofRatio k negative n d

/-- The number nearest to an integer. -/
def ofInt (k : FloatKind) (n : Int) : BinaryFloat :=
  ofRatio k (n < 0) n.natAbs 1

/-- The number of kind `k` nearest to a datum. -/
def ofDatum (k : FloatKind) : FloatDatum → BinaryFloat
  | .nan => nan k
  | .infinite negative => infinity k negative
  | .finite negative m e => ofScaled k negative m 1 e

/-- The number of kind `k` nearest to `x`. -/
def convert (k : FloatKind) (x : BinaryFloat) : BinaryFloat :=
  ofDatum k x.datum

/-- The same number with the other sign. -/
def negate (x : BinaryFloat) : BinaryFloat :=
  { x with negative := !x.negative }

/-- Whether the number is a zero of either sign. -/
def isZero (x : BinaryFloat) : Bool :=
  x.pattern == 0

/-- Whether the pattern denotes no number. -/
def isNaN (x : BinaryFloat) : Bool :=
  x.datum == .nan

/-- Whether the number is an infinity. -/
def isInfinite (x : BinaryFloat) : Bool :=
  x.pattern == x.kind.infinityPattern

/-- Equality of two numbers of one kind: what is no number equals nothing, and the two zeros are
equal. -/
def equals (x y : BinaryFloat) : Bool :=
  x.kind == y.kind && !x.isNaN && !y.isNaN &&
    (x.isZero && y.isZero || x == y)

/-- The rounded product of two finite numbers, of the kind of the first one. -/
def times (x y : BinaryFloat) : BinaryFloat :=
  match x.datum, y.datum with
  | .finite s m e, .finite t n f => ofScaled x.kind (s != t) (m * n) 1 (e + f)
  | _, _ => nan x.kind

/-- The rounded quotient of two finite numbers, of the kind of the first one. -/
def dividedBy (x y : BinaryFloat) : BinaryFloat :=
  match x.datum, y.datum with
  | .finite s m e, .finite t n f =>
    if n = 0 then nan x.kind else ofScaled x.kind (s != t) m n (e - f)
  | _, _ => nan x.kind

end BinaryFloat

end Reflection
