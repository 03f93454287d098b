import Reflection.Registry.Basic

/-!
# Descriptors of members

A descriptor names a member of a type and carries the data that is needed to use it. Its key is
what members are told apart by; two descriptors with one key denote the same member.

* `MemberDescriptor.key` is computed from the data.
* `MemberDescriptor.isOpenGeneric`: a generic method whose type arguments are not chosen.
-/

set_option autoImplicit false

namespace Reflection

/-- What members are told apart by. -/
structure MemberKey where
  declaring : TypeId
  name : String
  kind : MemberKind
  isStatic : Bool
  params : List ParamKey
  genericArity : Nat
  typeArgs : List TypeKey
  deriving DecidableEq

namespace MemberKey

/-- Whether a method has the name, scope and parameters of the key. -/
def matchesMethod (key : MemberKey) (m : MethodInfo) : Bool :=
  m.name == key.name && m.isStatic == key.isStatic && m.paramKeys == key.params

end MemberKey

/-- A member of a type, as found in a registry. -/
structure MemberDescriptor where
  declaring : TypeId
  name : String
  kind : MemberKind
  isStatic : Bool
  visibility : Visibility
  /-- The type of the data, or of the result. -/
  valueType : Option TypeRef
  params : List ParamInfo
  typeParams : List String
  typeArgs : List TypeRef
  deriving DecidableEq

namespace MemberDescriptor

/-- What the member is told apart by. -/
def key (d : MemberDescriptor) : MemberKey where
  declaring := d.declaring
  name := d.name
  kind := d.kind
  isStatic := d.isStatic
  params := d.params.map ParamInfo.key
  genericArity := d.typeParams.length
  typeArgs := d.typeArgs.map TypeRef.key

/-- Whether two descriptors denote the same member. -/
def sameMember (a b : MemberDescriptor) : Bool :=
  a.key == b.key

/-- The name of the type that declares the member. -/
def declaringName (d : MemberDescriptor) : ShortName :=
  d.declaring.name

/-- A member without parameters. -/
def plain (owner : TypeInfo) (name : String) (kind : MemberKind) (isStatic : Bool)
    (visibility : Visibility) (valueType : Option TypeRef) : MemberDescriptor :=
  ⟨owner.id, name, kind, isStatic, visibility, valueType, [], [], []⟩

/-- The descriptor of a field. -/
def ofField (owner : TypeInfo) (f : FieldInfo) : MemberDescriptor :=
  plain owner f.name .field f.isStatic f.visibility (some f.type)

/-- The descriptor of a property. -/
def ofProperty (owner : TypeInfo) (p : PropertyInfo) : MemberDescriptor :=
  plain owner p.name .property p.isStatic p.visibility (some p.type)

/-- The descriptor of a field or property. -/
def ofData (owner : TypeInfo) : DataMember → MemberDescriptor
  | .field f => ofField owner f
  | .property p => ofProperty owner p

/-- The descriptor of a constructor. -/
def ofConstructor (owner : TypeInfo) (c : ConstructorInfo) : MemberDescriptor :=
  plain owner "new" .constructor true c.visibility none

/-- The descriptor of a method. -/
def ofMethod (owner : TypeInfo) (m : MethodInfo) : MemberDescriptor where
  declaring := owner.id
  name := m.name
  kind := .method
  isStatic := m.isStatic
  visibility := m.visibility
  valueType := m.returnType
  params := m.params
  typeParams := []
  typeArgs := []

/-- The descriptor of a generic method before its type arguments are chosen. -/
def ofOpenGeneric (owner : TypeInfo) (g : GenericMethodInfo) : MemberDescriptor where
  declaring := owner.id
  name := g.name
  kind := .method
  isStatic := g.isStatic
  visibility := g.visibility
  valueType := none
  params := []
  typeParams := g.typeParams
  typeArgs := []

/-- The descriptor of an instance of a generic method. -/
def ofClosedGeneric (owner : TypeInfo) (g : GenericMethodInfo) (typeArgs : List TypeRef)
    (m : MethodInfo) : MemberDescriptor :=
  { ofMethod owner m with typeParams := g.typeParams, typeArgs := typeArgs }

/-- Whether type arguments are missing. -/
def isOpenGeneric (d : MemberDescriptor) : Bool :=
  d.typeArgs.length < d.typeParams.length

/-- The type arguments, or the type parameters where there are none. -/
def genericPart (d : MemberDescriptor) : String :=
  if d.typeParams.isEmpty then ""
  else if d.typeArgs.isEmpty then "<" ++ commaSeparated d.typeParams ++ ">"
  else "<" ++ commaSeparated (d.typeArgs.map TypeRef.display) ++ ">"

/-- The parameters of what can be called. -/
def parameterPart (d : MemberDescriptor) : String :=
  match d.kind with
  | .field | .property => ""
  | .constructor | .method =>
    if d.isOpenGeneric then "" else signature "" (d.params.map ParamInfo.display)

/-- The member with the type that declares it. -/
def display (d : MemberDescriptor) : String :=
  d.declaringName.display ++ "::" ++ d.name ++ d.genericPart ++ d.parameterPart

/-- The member is not there. -/
def notFound (d : MemberDescriptor) : AccessError :=
  .memberNotFound d.declaringName <|
    match d.kind with
    | .field | .property => d.name
    | .constructor | .method => signature d.name (d.params.map ParamInfo.display)

end MemberDescriptor

end Reflection
