import Reflection.Number.Binary

/-!
# Decimal texts of numbers

A floating-point number is written with the fewest decimal digits that read back as the same
number; of several such digit strings the one nearest to the number is taken.

* `shortestDecimal` finds the digits: it tests the two neighbours of the number on ever finer
  decimal grids, in exact arithmetic, and stops at the first grid with a neighbour inside the
  interval of reals that round to the number.
* `FloatLayout` says how digits become text, and `BinaryFloat.text?` writes a number in a layout.
* `FloatLayout.plain` is the layout of values in messages, `FloatLayout.json` the one in JSON.
-/

set_option autoImplicit false

namespace Reflection

-- Powers are computed by the power of the numbers, not by the one of monoids.
attribute [local instance (high)] instPowNat

/-- A positive decimal number, `digits * 10 ^ exponent`. -/
structure Decimal where
  digits : Nat
  exponent : Int
  deriving DecidableEq, Repr

/-- Which of two equally near digit strings is taken. -/
inductive Tie where
  | toEven
  | up
  deriving DecidableEq, Repr

/-- The reals that round to a positive number, over a common denominator: the number itself and
the two ends, which belong to it or not. -/
structure RoundingInterval where
  low : Nat
  value : Nat
  high : Nat
  den : Nat
  closed : Bool

namespace RoundingInterval

/-- The reals that round to `mantissa * 2 ^ exponent`. The gap below a power of two is half as
wide as the gap above it, except at the least exponent. The ends belong to the interval if the
mantissa is even. -/
def ofDatum (k : FloatKind) (mantissa : Nat) (exponent : Int) : RoundingInterval :=
  let below :=
    if mantissa = 2 ^ k.fractionBits ∧ k.leastExponent < exponent then 1 else 2
  let (scale, den) := scaleDown 1 1 (2 - exponent)
  { low := (4 * mantissa - below) * scale
    value := 4 * mantissa * scale
    high := (4 * mantissa + 2) * scale
    den := den
    closed := mantissa % 2 = 0 }

/-- Whether `num / interval.den` lies in the interval. -/
def contains (i : RoundingInterval) (num : Nat) : Bool :=
  if i.closed then i.low ≤ num && num ≤ i.high else i.low < num && num < i.high

/-- The interval in units of `10 ^ grid`. -/
def onGrid (i : RoundingInterval) (grid : Int) : RoundingInterval :=
  match grid with
  | .ofNat g => { i with den := i.den * 10 ^ g }
  | .negSucc g =>
    let f := 10 ^ (g + 1)
    { i with low := i.low * f, value := i.value * f, high := i.high * f }

/-- The multiple of the unit that lies in the interval and is nearest to the value, if the
interval holds a neighbour of the value. -/
def nearestMultiple (tie : Tie) (i : RoundingInterval) : Option Nat :=
  let below := i.value / i.den
  let above := below + 1
  if i.value % i.den = 0 then some below
  else
    match i.contains (below * i.den), i.contains (above * i.den) with
    | true, true =>
      -- Both neighbours read back: the nearer one is taken.
      let middle := (2 * below + 1) * i.den
      if 2 * i.value < middle then some below
      else if middle < 2 * i.value then some above
      else if tie = .up || below % 2 = 1 then some above
      else some below
    | true, false => some below
    | false, true => some above
    | false, false => none

/-- The first grid with a hit, from `10 ^ grid` downward. On a grid finer than the interval both
neighbours hit, so the last grid is never reached without one. -/
def search (tie : Tie) (i : RoundingInterval) : Nat → Int → Decimal
  | 0, grid => ⟨(i.onGrid grid).value / (i.onGrid grid).den, grid⟩
  | steps + 1, grid =>
    match (i.onGrid grid).nearestMultiple tie with
    | some d => ⟨d, grid⟩
    | none => search tie i steps (grid - 1)

end RoundingInterval

/-- The fewest digits that read back as `mantissa * 2 ^ exponent`. The first grid tried is coarser
than the number, whose decimal logarithm is at most `30103 / 100000` of the binary one; from
there seventeen digits and a few leading zeros suffice. -/
def shortestDecimal (k : FloatKind) (tie : Tie) (mantissa : Nat) (exponent : Int) : Decimal :=
  let bound := ((mantissa.log2 : Int) + 1 + exponent) * 30103 / 100000 + 2
  (RoundingInterval.ofDatum k mantissa exponent).search tie 24 bound

/-- How the digits of a floating-point number become text. -/
structure FloatLayout where
  /-- The exponents of the first digit for which the point stands among or beside the digits;
  outside of them the exponent is written. Without bounds the point is always written. -/
  positional : Option (Int × Int)
  /-- What follows a whole number that is written without exponent. -/
  wholeTail : String
  /-- Which of two equally near digit strings is taken. -/
  tie : Tie
  deriving DecidableEq

namespace FloatLayout

/-- Numbers in messages: never an exponent, and no point after a whole number. -/
def plain : FloatLayout := ⟨none, "", .up⟩

/-- Numbers in JSON: always a point or an exponent, so that they read back as floats. The range
written without exponent depends on the kind. -/
def json : FloatKind → FloatLayout
  | .f32 => ⟨some (-6, 12), ".0", .toEven⟩
  | .f64 => ⟨some (-5, 15), ".0", .toEven⟩

end FloatLayout

namespace Decimal

/-- The digits as characters. -/
def digitChars (d : Decimal) : List Char :=
  Nat.toDigits 10 d.digits

/-- The exponent of the first digit. -/
def leading (d : Decimal) : Int :=
  d.exponent + d.digitChars.length - 1

/-- The number with its point written in place. -/
def positionalText (wholeTail : String) (d : Decimal) : String :=
  let digits := d.digitChars
  match d.exponent with
  | .ofNat e => String.ofList (digits ++ List.replicate e '0') ++ wholeTail
  | .negSucc e =>
    let places := e + 1
    if places < digits.length then
      let whole := digits.length - places
      String.ofList (digits.take whole ++ '.' :: digits.drop whole)
    else
      String.ofList ('0' :: '.' :: List.replicate (places - digits.length) '0' ++ digits)

/-- The number with one digit before the point and an exponent that always has a sign. -/
def exponentText (d : Decimal) : String :=
  let mantissa :=
    match d.digitChars with
    | [] => []
    | [c] => [c]
    | c :: rest => c :: '.' :: rest
  let sign := if d.leading < 0 then "e-" else "e+"
  String.ofList mantissa ++ sign ++ toString d.leading.natAbs

/-- The number in a layout. -/
def text (layout : FloatLayout) (d : Decimal) : String :=
  match layout.positional with
  | none => d.positionalText layout.wholeTail
  | some (low, high) =>
    if low ≤ d.leading ∧ d.leading ≤ high then d.positionalText layout.wholeTail
    else d.exponentText

end Decimal

namespace BinaryFloat

/-- The text of a number in a layout; none for infinities and for what is no number. -/
def text? (layout : FloatLayout) (x : BinaryFloat) : Option String :=
  match x.datum with
  | .finite negative m e =>
    let sign := if negative then "-" else ""
    let magnitude :=
      if m = 0 then "0" ++ layout.wholeTail
      else (shortestDecimal x.kind layout.tie m e).text layout
    some (sign ++ magnitude)
  | _ => none

/-- The text of a number in messages. -/
def display (x : BinaryFloat) : String :=
  match x.datum with
  | .nan => "NaN"
  | .infinite negative => if negative then "-inf" else "inf"
  | .finite .. => (x.text? .plain).getD ""

-- Three tenths and ten to the sixteenth, in both layouts.
example : (ofRatio .f64 false 3 10).text? .plain = some "0.3" := by decide +kernel

example : (ofRatio .f64 false (10 ^ 16) 1).text? .plain = some "10000000000000000" := by
  decide +kernel

example : (ofRatio .f64 false (10 ^ 16) 1).text? (.json .f64) = some "1e+16" := by
  decide +kernel

-- A whole number keeps its point in JSON only.
example : (ofRatio .f32 true 1 1).text? .plain = some "-1" := by decide +kernel

example : (ofRatio .f32 true 1 1).text? (.json .f32) = some "-1.0" := by decide +kernel

end BinaryFloat

end Reflection
