import Reflection.Values.Value

/-!
# Conversion to declared types

`TypeRef.coerce` converts a dynamic value to a declared type or says which conversion is
impossible. Numbers convert between kinds when the number is kept: an integer has to be in range,
and a floating-point number has to be whole and in range to become an integer. A floating-point
target takes the nearest number. Nothing else changes its kind; a reference to an instance of the
right type takes the name of the declared type.
-/

set_option autoImplicit false

namespace Reflection

/-- A conversion that is impossible. -/
structure ConversionError where
  /-- The name of the type of the value. -/
  source : ShortName
  /-- The name of the declared type. -/
  target : ShortName
  deriving DecidableEq

namespace ConversionError

/-- The text of the error. -/
def message (e : ConversionError) : String :=
  "cannot convert `" ++ e.source.display ++ "` to `" ++ e.target.display ++ "`"

end ConversionError

namespace BoundedInt

/-- The integer that a floating-point number is, if it is one that the kind holds. The truncation
and the range check are those of `NumCast`: it cuts off the fraction and gives what is left if that
is in range. Whether a fraction was cut off is checked afterwards. -/
def ofFloat? (kind : IntKind) (x : BinaryFloat) : Option BoundedInt := do
  let whole ← x.datum.truncate
  let n ← ofInt? kind whole
  if x.datum.denotes whole then some n else none

end BoundedInt

namespace Value

/-- The number in another kind, if that kind has it; every number has a nearest one in a
floating-point kind. -/
def toNumber? : NumKind → Value → Option Value
  | .int kind, int n => (BoundedInt.ofInt? kind n.value).map int
  | .int kind, float x => (BoundedInt.ofFloat? kind x).map int
  | .float kind, int n => some (float (.ofInt kind n.value))
  | .float kind, float x => some (float (x.convert kind))
  | _, _ => none

/-- The conversion of a value to a declared type is impossible. -/
def refuse (v : Value) (type : TypeRef) : ConversionError :=
  ⟨v.typeName, type.name⟩

end Value

namespace TypeRef

/-- Converts a value to the declared type. -/
def coerce : TypeRef → Value → Except ConversionError Value
  | any, v => .ok v
  | nullable _, .null => .ok .null
  | nullable underlying, v => underlying.coerce v
  | bool, .bool b => .ok (.bool b)
  | char, .char c => .ok (.char c)
  | string, .string s => .ok (.string s)
  | anyObject, .object o => .ok (.object o)
  | shared type, .object o =>
    -- The instance decides, and the name that the reference showed is dropped.
    if o.type = type then .ok (.object ⟨o.address, o.type, type.name⟩)
    else .error ((Value.object o).refuse (shared type))
  | number kind, v =>
    match v.toNumber? kind with
    | some n => .ok n
    | none => .error (v.refuse (number kind))
  | type, v => .error (v.refuse type)

end TypeRef

end Reflection
