import Reflection.Values.Value

/-!
# Sources of values

A source of data offers one datum of some kind. Data without a counterpart among the dynamic
values are refused: sequences, maps, byte arrays and integers wider than 64 bits.
-/

set_option autoImplicit false

namespace Reflection

/-- What a source of data offers. -/
inductive SourceDatum where
  | unit
  | missing
  | present (inner : SourceDatum)
  | bool (b : Bool)
  | char (c : Char)
  | int (n : BoundedInt)
  /-- An integer of 128 bits, by its text. -/
  | wideInt (isSigned : Bool) (text : String)
  | float (x : BinaryFloat)
  | string (s : String)
  | bytes
  | sequence
  | map

/-- Why a datum is refused. -/
inductive SourceRefusal where
  | wideInt (isSigned : Bool) (text : String)
  | bytes
  | sequence
  | map
  deriving DecidableEq

namespace SourceRefusal

/-- What was offered, as messages show it. -/
def offered : SourceRefusal → String
  | wideInt isSigned text =>
    "integer `" ++ text ++ "` as " ++ (if isSigned then "i128" else "u128")
  | bytes => "byte array"
  | sequence => "sequence"
  | map => "map"

/-- The text of the refusal. -/
def message (r : SourceRefusal) : String :=
  "invalid type: " ++ r.offered ++
    ", expected null, a boolean, a character, a number or a string"

end SourceRefusal

namespace Value

/-- The value of a datum. -/
def ofDatum : SourceDatum → Except SourceRefusal Value
  | .unit | .missing => .ok null
  | .present inner => ofDatum inner
  | .bool b => .ok (bool b)
  | .char c => .ok (char c)
  | .int n => .ok (int n)
  | .wideInt isSigned text => .error (.wideInt isSigned text)
  | .float x => .ok (float x)
  | .string s => .ok (string s)
  | .bytes => .error .bytes
  | .sequence => .error .sequence
  | .map => .error .map

end Value

end Reflection
