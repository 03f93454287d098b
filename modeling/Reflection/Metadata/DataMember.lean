import Reflection.Metadata.Kinds
import Reflection.Values.Store

/-!
# Fields and properties

A field is a cell, of each instance or of the type itself. A property is read by a function of the
state and written by another one, if it can be written at all.

A `DataMember` is one of the two. Its raw access works on the owner's own instances only: `get?`
and `set?` give nothing for any other target, and they look at the target before the value.
-/

set_option autoImplicit false

namespace Reflection

/-- A field: data that is stored. -/
structure FieldInfo where
  name : String
  visibility : Visibility
  type : TypeRef
  /-- The cell that is read and the cell that is written. -/
  cells : Scoped (Cell × Cell)

namespace FieldInfo

/-- Whether the field belongs to the type itself. -/
def isStatic (f : FieldInfo) : Bool :=
  f.cells.isStatic

/-- The value of the field. -/
def get? (f : FieldInfo) (owner : TypeId) (target : Option Target) (store : Store) :
    Option Value :=
  (f.cells.at? owner target).map fun cells => store.read (cells.1.place f.type)

/-- Converts a value to the type of the field and stores it. -/
def set? (f : FieldInfo) (owner : TypeId) (target : Option Target) (v : Value) (store : Store) :
    Option (Except ConversionError Store) :=
  (f.cells.at? owner target).map fun cells => store.assign (cells.2.place f.type) v

end FieldInfo

/-- How a property is written, and who may do it. -/
structure PropertySetter where
  visibility : Visibility
  write : Scoped (Value → Store → Store)

/-- A property: data that is read and written by functions. -/
structure PropertyInfo where
  name : String
  visibility : Visibility
  type : TypeRef
  read : Scoped (Store → Value)
  setter : Option PropertySetter
  /-- Both functions belong to the type itself, or neither does. -/
  setter_isStatic : ∀ s ∈ setter, s.write.isStatic = read.isStatic

namespace PropertyInfo

/-- Whether the property belongs to the type itself. -/
def isStatic (p : PropertyInfo) : Bool :=
  p.read.isStatic

/-- Whether the property has no setter. -/
def isReadOnly (p : PropertyInfo) : Bool :=
  p.setter.isNone

/-- Who may write the property. -/
def setterVisibility (p : PropertyInfo) : Option Visibility :=
  p.setter.map PropertySetter.visibility

/-- The value of the property. -/
def get? (p : PropertyInfo) (owner : TypeId) (target : Option Target) (store : Store) :
    Option Value :=
  (p.read.at? owner target).map fun read => read store

/-- Converts a value to the type of the property and writes it with a setter. -/
def setWith? (p : PropertyInfo) (s : PropertySetter) (owner : TypeId) (target : Option Target)
    (v : Value) (store : Store) : Option (Except ConversionError Store) :=
  (s.write.at? owner target).map fun write => (p.type.coerce v).map fun w => write w store

end PropertyInfo

/-- A field or a property. -/
inductive DataMember where
  | field (info : FieldInfo)
  | property (info : PropertyInfo)

namespace DataMember

/-- The name of the member. -/
def name : DataMember → String
  | field f => f.name
  | property p => p.name

/-- Which of the two it is. -/
def kind : DataMember → MemberKind
  | field _ => .field
  | property _ => .property

/-- Whether the member belongs to the type itself. -/
def isStatic : DataMember → Bool
  | field f => f.isStatic
  | property p => p.isStatic

/-- Who may use the member. -/
def visibility : DataMember → Visibility
  | field f => f.visibility
  | property p => p.visibility

/-- The declared type of the member. -/
def type : DataMember → TypeRef
  | field f => f.type
  | property p => p.type

/-- Whether the member can be written. -/
def isWritable : DataMember → Bool
  | field _ => true
  | property p => p.setter.isSome

/-- The value of the member, if the target suits it. -/
def get? (owner : TypeId) (target : Option Target) (store : Store) : DataMember → Option Value
  | field f => f.get? owner target store
  | property p => p.get? owner target store

/-- Writes the member, if it can be written and the target suits it. -/
def set? (owner : TypeId) (target : Option Target) (v : Value) (store : Store) :
    DataMember → Option (Except ConversionError Store)
  | field f => f.set? owner target v store
  | property p =>
    -- Without setter there is no way to write, whatever the target is.
    p.setter.bind fun s => p.setWith? s owner target v store

end DataMember

end Reflection
