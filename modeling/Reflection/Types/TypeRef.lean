import Reflection.Types.TypeId

/-!
# Declared types

A field, a parameter or a result is declared with a `TypeRef`. A declared type has a class, which
says how values convert to it, and an identity, which is the type that a matching value has at
run time.

* `TypeRef.key_injective`: identity and class together determine the declared type.
* `TypeRef.ofType?_eq_some_iff`: which types can be declared types.
-/

set_option autoImplicit false

namespace Reflection

/-- How values convert to a declared type. -/
inductive TypeClass where
  | bool
  | char
  | number (kind : NumKind)
  | string
  | object
  | anyObject
  | any
  | nullable
  deriving DecidableEq

namespace TypeClass

/-- The name of the class. -/
def text : TypeClass → String
  | bool => "Bool"
  | char => "Char"
  | number kind => "Number(" ++ kind.text ++ ")"
  | string => "String"
  | object => "Object"
  | anyObject => "AnyObject"
  | any => "Any"
  | nullable => "Nullable"

end TypeClass

/-- What overloads are told apart by: an identity and a class. -/
structure TypeKey where
  id : TypeId
  typeClass : TypeClass
  deriving DecidableEq

/-- A declared type. -/
inductive TypeRef where
  | bool
  | char
  | number (kind : NumKind)
  | string
  /-- A shared instance of one type. -/
  | shared (type : TypeId)
  /-- A shared instance of any type. -/
  | anyObject
  /-- Any value, null included. -/
  | any
  /-- A value of the underlying type, or null. -/
  | nullable (underlying : TypeRef)
  deriving DecidableEq

namespace TypeRef

/-- The type that is declared. -/
def plain : TypeRef → TypeId
  | bool => .bool
  | char => .char
  | number kind => .number kind
  | string => .string
  | shared type => .shared type
  | anyObject => .object
  | any => .value
  | nullable underlying => .optional underlying.plain

/-- The declared type of a type, if it has one. -/
def ofType? : TypeId → Option TypeRef
  | .bool => some bool
  | .char => some char
  | .number kind => some (number kind)
  | .string => some string
  | .object => some anyObject
  | .value => some any
  | .optional inner => (ofType? inner).map nullable
  | .shared inner => some (shared inner)
  | .named _ => none

/-- The type that a matching value has at run time: a reference to a shared instance is seen
through. -/
def id : TypeRef → TypeId
  | shared type => type
  | type => type.plain

/-- The name under which the declared type is shown. -/
def name (type : TypeRef) : ShortName :=
  type.id.name

/-- The short name as text. -/
def display (type : TypeRef) : String :=
  type.name.display

/-- How values convert to the type. -/
def typeClass : TypeRef → TypeClass
  | bool => .bool
  | char => .char
  | number kind => .number kind
  | string => .string
  | shared _ => .object
  | anyObject => .anyObject
  | any => .any
  | nullable _ => .nullable

/-- What overloads are told apart by. -/
def key (type : TypeRef) : TypeKey :=
  ⟨type.id, type.typeClass⟩

/-- Whether null is a value of the type. -/
def isNullable : TypeRef → Bool
  | any | nullable _ => true
  | _ => false

/-- The type whose values a nullable type adds null to. -/
def underlying? : TypeRef → Option TypeRef
  | nullable underlying => some underlying
  | _ => none

theorem plain_injective {a b : TypeRef} (h : a.plain = b.plain) : a = b := by
  induction a generalizing b with
  | nullable u ih =>
    cases b with
    | nullable v => exact congrArg nullable (ih (TypeId.optional.inj h))
    | _ => simp [plain] at h
  | _ => cases b <;> simp_all [plain]

/-- Identity and class together determine the declared type. -/
theorem key_injective {a b : TypeRef} (h : a.key = b.key) : a = b := by
  cases a <;> cases b <;> simp_all [key, id, typeClass, plain]
  exact plain_injective h

theorem key_inj {a b : TypeRef} : a.key = b.key ↔ a = b :=
  ⟨key_injective, congrArg key⟩

theorem ofType?_plain (type : TypeRef) : ofType? type.plain = some type := by
  induction type with
  | nullable u ih => simp [plain, ofType?, ih]
  | _ => rfl

theorem ofType?_eq_some_iff {t : TypeId} {type : TypeRef} :
    ofType? t = some type ↔ t = type.plain := by
  constructor
  · intro h
    induction t generalizing type with
    | optional inner ih =>
      obtain ⟨u, hu, rfl⟩ := Option.map_eq_some_iff.1 h
      simp [plain, ← ih hu]
    | named _ => simp [ofType?] at h
    | _ => cases h; rfl
  · rintro rfl
    exact ofType?_plain type

end TypeRef

end Reflection
