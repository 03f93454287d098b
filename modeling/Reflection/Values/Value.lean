import Reflection.Number.Decimal
import Reflection.Values.Address

/-!
# Dynamic values

A `Value` is null, one of the basic kinds of data, or a reference to a shared instance. A
reference carries the name of a type, which is only shown and never decides what the instance is.

* `Value.equals` compares contents, numbers of one kind as numbers and references by the
  instance.
* `Value.typeKey?` is what overloads are chosen by.
-/

set_option autoImplicit false

namespace Reflection

/-- An integer of one kind, inside the range of that kind. -/
structure BoundedInt where
  kind : IntKind
  value : Int
  holds : kind.Holds value
  deriving DecidableEq

namespace BoundedInt

/-- The integer in a kind whose range holds it. Between kinds this range check is the one of
`NumCast`: it gives the integer if it is in range, and nothing otherwise. -/
def ofInt? (kind : IntKind) (n : Int) : Option BoundedInt :=
  if h : kind.Holds n then some ⟨kind, n, h⟩ else none

end BoundedInt

/-- A reference to a shared instance. -/
structure Object where
  /-- The instance. -/
  address : Address
  /-- The type of the instance. -/
  type : TypeId
  /-- The name that the reference shows. -/
  name : ShortName
  deriving DecidableEq

namespace Object

/-- A reference to an instance, under the name of its type. -/
def ofTarget (target : Target) : Object :=
  ⟨target.address, target.type, target.type.name⟩

/-- Whether both refer to the same instance. -/
def same (a b : Object) : Bool :=
  a.address == b.address

/-- The reference with its name, for diagnostics. -/
def debug (o : Object) : String :=
  "Object(" ++ o.name.display ++ ")"

end Object

/-- A dynamic value. -/
inductive Value where
  | null
  | bool (value : Bool)
  | char (value : Char)
  | int (value : BoundedInt)
  | float (value : BinaryFloat)
  | string (value : String)
  | object (value : Object)
  deriving DecidableEq

instance : Inhabited Value := ⟨.null⟩

namespace Value

/-- Whether the value is null. -/
def isNull : Value → Bool
  | null => true
  | _ => false

/-- The kind of a number. -/
def numKind? : Value → Option NumKind
  | int n => some (.int n.kind)
  | float x => some (.float x.kind)
  | _ => none

/-- The text of a string value. -/
def text? : Value → Option String
  | string s => some s
  | _ => none

/-- The reference in a value. -/
def object? : Value → Option Object
  | object o => some o
  | _ => none

/-- The type that the value has at run time; null has none. -/
def runtimeType? : Value → Option TypeId
  | null => none
  | bool _ => some .bool
  | char _ => some .char
  | int n => some (.number (.int n.kind))
  | float x => some (.number (.float x.kind))
  | string _ => some .string
  | object o => some o.type

/-- The key that a declared type has to match exactly; null has none. -/
def typeKey? : Value → Option TypeKey
  | null => none
  | bool _ => some ⟨.bool, .bool⟩
  | char _ => some ⟨.char, .char⟩
  | int n => some ⟨.number (.int n.kind), .number (.int n.kind)⟩
  | float x => some ⟨.number (.float x.kind), .number (.float x.kind)⟩
  | string _ => some ⟨.string, .string⟩
  | object o => some ⟨o.type, .object⟩

/-- The name of the value's type, as messages show it. -/
def typeName : Value → ShortName
  | null => ⟨"null"⟩
  | bool _ => TypeId.bool.name
  | char _ => TypeId.char.name
  | int n => (TypeId.number (.int n.kind)).name
  | float x => (TypeId.number (.float x.kind)).name
  | string _ => TypeId.string.name
  | object o => o.name

/-- The value as text. -/
def display : Value → String
  | null => "null"
  | bool b => if b then "true" else "false"
  | char c => c.toString
  | int n => toString n.value
  | float x => x.display
  | string s => s
  | object o => "<" ++ o.name.display ++ ">"

/-- Equality of contents: numbers of one kind as numbers, references by their instance. -/
def equals : Value → Value → Bool
  | float x, float y => x.equals y
  | object a, object b => a.same b
  | a, b => a == b

/-- A value with a run-time type has a key, and the key names that type. -/
theorem typeKey?_map_id (v : Value) : v.typeKey?.map TypeKey.id = v.runtimeType? := by
  cases v <;> rfl

theorem typeKey?_eq_none_iff {v : Value} : v.typeKey? = none ↔ v = null := by
  cases v <;> simp [typeKey?]

theorem isNull_iff {v : Value} : v.isNull ↔ v = null := by
  cases v <;> simp [isNull]

end Value

end Reflection
