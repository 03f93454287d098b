/-!
# Kinds of numbers

Eight integer kinds, each with a finite range, and two binary floating-point kinds.

* `IntKind.Holds k n`: the mathematical integer `n` lies in the range of `k`.
* `NumKind.widensTo`: which kinds convert to which without being asked to.
-/

set_option autoImplicit false

namespace Reflection

-- Powers are computed by the power of the numbers, not by the one of monoids.
attribute [local instance (high)] instPowNat

/-- An integer kind: signed or unsigned, of 8 to 64 bits. -/
inductive IntKind where
  | i8 | i16 | i32 | i64 | u8 | u16 | u32 | u64
  deriving DecidableEq, Repr

namespace IntKind

/-- Every integer kind. -/
def all : List IntKind := [i8, i16, i32, i64, u8, u16, u32, u64]

/-- The number of bits of a value of the kind. -/
def bits : IntKind → Nat
  | i8 | u8 => 8
  | i16 | u16 => 16
  | i32 | u32 => 32
  | i64 | u64 => 64

/-- Whether the kind has negative values. -/
def isSigned : IntKind → Bool
  | i8 | i16 | i32 | i64 => true
  | u8 | u16 | u32 | u64 => false

/-- The least value of the kind. -/
def least (k : IntKind) : Int :=
  if k.isSigned then -(2 ^ (k.bits - 1)) else 0

/-- The greatest value of the kind. -/
def greatest (k : IntKind) : Int :=
  if k.isSigned then 2 ^ (k.bits - 1) - 1 else 2 ^ k.bits - 1

/-- The integer `n` is a value of kind `k`. -/
def Holds (k : IntKind) (n : Int) : Prop :=
  k.least ≤ n ∧ n ≤ k.greatest

instance (k : IntKind) (n : Int) : Decidable (k.Holds n) :=
  inferInstanceAs (Decidable (k.least ≤ n ∧ n ≤ k.greatest))

/-- The name of the kind. -/
def text : IntKind → String
  | i8 => "i8"
  | i16 => "i16"
  | i32 => "i32"
  | i64 => "i64"
  | u8 => "u8"
  | u16 => "u16"
  | u32 => "u32"
  | u64 => "u64"

/-- The kind of a name. -/
def ofText? (name : String) : Option IntKind :=
  all.find? fun k => k.text == name

/-- The integer kinds that a kind converts to implicitly. -/
def wider : IntKind → List IntKind
  | i8 => [i16, i32, i64]
  | i16 => [i32, i64]
  | i32 => [i64]
  | i64 | u64 => []
  | u8 => [i16, u16, i32, u32, i64, u64]
  | u16 => [i32, u32, i64, u64]
  | u32 => [i64, u64]

end IntKind

/-- A binary floating-point kind. -/
inductive FloatKind where
  | f32 | f64
  deriving DecidableEq, Repr

namespace FloatKind

/-- The name of the kind. -/
def text : FloatKind → String
  | f32 => "f32"
  | f64 => "f64"

/-- The kind of a name. -/
def ofText? (name : String) : Option FloatKind :=
  [f32, f64].find? fun k => k.text == name

end FloatKind

/-- The kind of a number. -/
inductive NumKind where
  | int (kind : IntKind)
  | float (kind : FloatKind)
  deriving DecidableEq, Repr

namespace NumKind

/-- Every number kind. -/
def all : List NumKind := IntKind.all.map int ++ [float .f32, float .f64]

/-- Whether the values of the kind are integers. -/
def isInteger : NumKind → Bool
  | int _ => true
  | float _ => false

/-- The name of the kind. -/
def text : NumKind → String
  | int k => k.text
  | float k => k.text

/-- The kind of a name. -/
def ofText? (name : String) : Option NumKind :=
  all.find? fun k => k.text == name

/-- Whether every value of the first kind converts to the second implicitly. Integers widen to
the listed integer kinds and to every float, and the smaller float to the larger one. No kind
widens to itself. -/
def widensTo : NumKind → NumKind → Bool
  | int a, int b => a.wider.contains b
  | int _, float _ => true
  | float .f32, float .f64 => true
  | float _, _ => false

end NumKind

end Reflection
