import Reflection.Number.Binary

/-!
# JSON numbers

A number without point and exponent is read exactly when it fits 64 bits. Every other number is
read as a float: as many leading digits as fit 64 bits are taken as one integer, the digits after
them count by their places only, and the integer is then multiplied or divided by a power of ten.
Each of the two steps rounds.

* `number?` reads a number at the start of a text.
* `ofDigits` is the rounding rule.
-/

set_option autoImplicit false

namespace Reflection.Json

-- Powers are computed by the power of the numbers, not by the one of monoids.
attribute [local instance (high)] instPowNat

/-- A number that was read. -/
inductive Number where
  | natural (n : Nat)
  | negative (n : Int)
  | float (x : BinaryFloat)

/-- The value of a decimal digit. -/
def digitValue? (c : Char) : Option Nat :=
  if c.isDigit then some (c.toNat - 48) else none

/-- The greatest integer that leading digits are collected to. -/
def significandLimit : Nat := 2 ^ (64 : Nat) - 1

/-- Collects leading digits as long as the integer fits: the integer, how many digits were
collected, and the rest. -/
def collect (significand count : Nat) : List Char → Nat × Nat × List Char
  | [] => (significand, count, [])
  | c :: rest =>
    match digitValue? c with
    | none => (significand, count, c :: rest)
    | some d =>
      if significand * 10 + d ≤ significandLimit then
        collect (significand * 10 + d) (count + 1) rest
      else (significand, count, c :: rest)

/-- A power of ten as a float. -/
def powerOfTen (n : Nat) : BinaryFloat :=
  .ofRatio .f64 false (10 ^ n) 1

/-- A float scaled by a power of ten. A large negative exponent is taken in parts; a result past
the greatest finite number is refused. -/
def scaleByTen : Nat → BinaryFloat → Int → Option BinaryFloat
  | 0, x, _ => some x
  | parts + 1, x, exponent =>
    if exponent.natAbs ≤ 308 then
      if 0 ≤ exponent then
        let product := x.times (powerOfTen exponent.natAbs)
        if product.isInfinite then none else some product
      else some (x.dividedBy (powerOfTen exponent.natAbs))
    -- Past the table of powers only a zero, or a number small enough, has a result.
    else if x.isZero then some x
    else if 0 ≤ exponent then none
    else scaleByTen parts (x.dividedBy (powerOfTen 308)) (exponent + 308)

/-- The float that an integer and an exponent of ten stand for. -/
def ofDigits (negative : Bool) (significand : Nat) (exponent : Int) : Option BinaryFloat := do
  let x ← scaleByTen (exponent.natAbs / 308 + 1) (.ofInt .f64 significand) exponent
  some (if negative then x.negate else x)

/-- The greatest exponent that is counted. -/
def exponentLimit : Nat := 2 ^ (31 : Nat) - 1

/-- The number that digits write. -/
def digitsValue (digits : List Char) : Nat :=
  digits.foldl (fun n c => n * 10 + (c.toNat - 48)) 0

/-- Reads the exponent after its letter. -/
def exponent? (negative : Bool) (significand : Nat) (start : Int) (cs : List Char) :
    Option (BinaryFloat × List Char) :=
  let (down, cs) :=
    match cs with
    | '+' :: rest => (false, rest)
    | '-' :: rest => (true, rest)
    | cs => (false, cs)
  let digits := cs.takeWhile Char.isDigit
  let rest := cs.dropWhile Char.isDigit
  if digits.isEmpty then none
  else
    let n := digitsValue digits
    -- The result is then a zero or out of range, whatever the other digits are.
    if exponentLimit < n then
      if significand ≠ 0 ∧ ¬down then none
      else some (⟨.f64, negative, 0, Nat.two_pow_pos _⟩, rest)
    else do
      let x ← ofDigits negative significand (if down then start - n else start + n)
      some (x, rest)

/-- Reads the exponent if there is one. -/
def scaled? (negative : Bool) (significand : Nat) (start : Int) (cs : List Char) :
    Option (BinaryFloat × List Char) :=
  match cs with
  | 'e' :: rest | 'E' :: rest => exponent? negative significand start rest
  | cs => (ofDigits negative significand start).map fun x => (x, cs)

/-- Reads the digits after the point. -/
def fraction? (negative : Bool) (significand : Nat) (start : Int) (cs : List Char) :
    Option (BinaryFloat × List Char) :=
  let (significand, count, rest) := collect significand 0 cs
  let skipped := rest.dropWhile Char.isDigit
  if count = 0 ∧ skipped.length = rest.length then none
  else scaled? negative significand (start - count) skipped

/-- Reads what follows the digits before the point, as a float. -/
def float? (negative : Bool) (significand : Nat) (start : Int) (cs : List Char) :
    Option (BinaryFloat × List Char) :=
  match cs with
  | '.' :: rest => fraction? negative significand start rest
  | cs => scaled? negative significand start cs

/-- An integer that fits; a negative one past the range, and the negative zero, are floats. -/
def integer (negative : Bool) (significand : Nat) : Number :=
  if ¬negative then .natural significand
  else if significand = 0 ∨ 2 ^ (63 : Nat) < significand then
    .float (BinaryFloat.ofInt .f64 significand).negate
  else .negative (-significand)

/-- Reads a number after its sign. -/
def unsigned? (negative : Bool) (cs : List Char) : Option (Number × List Char) :=
  let (significand, count, rest) := collect 0 0 cs
  let dropped := rest.takeWhile Char.isDigit
  let after := rest.dropWhile Char.isDigit
  if count = 0 ∨ (cs.head? = some '0' ∧ 1 < count + dropped.length) then none
  else
    let wholeFloat := do
      let (x, rest) ← float? negative significand dropped.length after
      some (Number.float x, rest)
    match dropped, after with
    | [], '.' :: _ => wholeFloat
    | [], 'e' :: _ => wholeFloat
    | [], 'E' :: _ => wholeFloat
    | [], after => some (integer negative significand, after)
    | _, _ => wholeFloat

/-- Reads a number. -/
def number? (cs : List Char) : Option (Number × List Char) :=
  match cs with
  | '-' :: rest => unsigned? true rest
  | cs => unsigned? false cs

end Reflection.Json
