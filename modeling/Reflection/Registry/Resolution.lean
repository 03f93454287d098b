import Reflection.Registry.Descriptor

/-!
# Finding members

A member is looked up along the ancestors of a type, and the nearest type that has it wins. In the
other direction, `Registry.resolve?` finds the metadata that the key of a descriptor denotes.

* `Registry.field`, `property`, `member`, `method`, `generic`: the nearest member.
* `Registry.methods`: all methods of a name that are not hidden by a nearer one.
* `Registry.closeGeneric`: chooses the type arguments of a generic method.
-/

set_option autoImplicit false

namespace Reflection

/-- The metadata of a member. -/
inductive Member where
  | data (info : DataMember)
  | method (info : MethodInfo)
  | constructor (info : ConstructorInfo)

namespace Registry

/-- A type has no such member. -/
def notFound (r : Registry) (type : TypeId) (member : String) : AccessError :=
  .memberNotFound (r.nameOf type) member

/-- The nearest member, with an error if no ancestor has one. -/
def nearest (r : Registry) (type : TypeId) (member : String)
    (find : TypeInfo → Option MemberDescriptor) : Except AccessError MemberDescriptor :=
  match (r.ancestors type).findSome? find with
  | some d => .ok d
  | none => .error (r.notFound type member)

/-- The nearest field of a name. -/
def field (r : Registry) (type : TypeId) (name : String) : Except AccessError MemberDescriptor :=
  r.nearest type name fun owner => (owner.field? name).map (.ofField owner)

/-- The nearest property of a name. -/
def property (r : Registry) (type : TypeId) (name : String) :
    Except AccessError MemberDescriptor :=
  r.nearest type name fun owner => (owner.property? name).map (.ofProperty owner)

/-- The nearest field or property of a name. In one type a field comes first. -/
def member (r : Registry) (type : TypeId) (name : String) : Except AccessError MemberDescriptor :=
  r.nearest type name fun owner => (owner.dataMember? name).map (.ofData owner)

/-- The nearest method of a name whose parameters have exactly these types. -/
def method (r : Registry) (type : TypeId) (name : String) (types : List TypeRef) :
    Except AccessError MemberDescriptor :=
  r.nearest type (signature name (types.map TypeRef.display)) fun owner =>
    ((owner.methodsNamed name).find? fun m => m.hasSignature types).map (.ofMethod owner)

/-- Adds a method to the visible ones, unless one with the same parameters is there. -/
def addVisible (visible : List MemberDescriptor) (d : MemberDescriptor) : List MemberDescriptor :=
  if visible.any fun seen => seen.key.params == d.key.params then visible else visible ++ [d]

/-- The methods of a name, the most derived first. A method hides every farther one with the same
parameters. -/
def methods (r : Registry) (type : TypeId) (name : String) : List MemberDescriptor :=
  ((r.ancestors type).flatMap fun owner =>
    (owner.methodsNamed name).map (.ofMethod owner)).foldl addVisible []

/-- The nearest generic method of a name, without type arguments. -/
def generic (r : Registry) (type : TypeId) (name : String) : Except AccessError MemberDescriptor :=
  r.nearest type name fun owner => (owner.generic? name).map (.ofOpenGeneric owner)

/-- The instance of a generic method for exactly these type arguments. -/
def closedGeneric? (r : Registry) (openMethod : MemberDescriptor) (typeArgs : List TypeRef) :
    Option MemberDescriptor := do
  let owner ← r.find? openMethod.declaring
  let g ← owner.generic? openMethod.name
  if g.arity = typeArgs.length then
    let m ← g.instanceFor? typeArgs
    some (.ofClosedGeneric owner g typeArgs m)
  else none

/-- Chooses the type arguments of a generic method. -/
def closeGeneric (r : Registry) (openMethod : MemberDescriptor) (typeArgs : List TypeRef) :
    Except AccessError MemberDescriptor :=
  match r.closedGeneric? openMethod typeArgs with
  | some d => .ok d
  | none =>
    .error <| r.notFound openMethod.declaring <|
      openMethod.name ++ "<" ++ commaSeparated (typeArgs.map TypeRef.display) ++ ">"

/-- The constructor of a type that has instances of its own. -/
def constructor (r : Registry) (type : TypeId) : Except AccessError MemberDescriptor :=
  match r.find? type with
  | none => .error (r.notFound type "new")
  | some owner =>
    match owner.constructor with
    | some c =>
      if owner.kind.isInstantiable then .ok (.ofConstructor owner c)
      else .error (.noParameterlessConstructor owner.name)
    | none => .error (.noParameterlessConstructor owner.name)

/-- The method that a key denotes in its type. -/
def resolveMethod? (owner : TypeInfo) (key : MemberKey) : Option MethodInfo :=
  -- A key without type parameters denotes a plain method, even if a generic one has no parameters.
  if key.genericArity = 0 then owner.methods.find? key.matchesMethod
  else do
    let g ← owner.generic? key.name
    if g.arity = key.typeArgs.length then
      (g.instances.find? fun i => i.typeArgs.map TypeRef.key == key.typeArgs).map
        GenericInstance.method
    else none

/-- The metadata that a key denotes. -/
def resolve? (r : Registry) (key : MemberKey) : Option Member := do
  let owner ← r.find? key.declaring
  match key.kind with
  | .field =>
    (owner.fields.find? fun f => f.name == key.name && f.isStatic == key.isStatic).map
      fun f => .data (.field f)
  | .property =>
    (owner.properties.find? fun p => p.name == key.name && p.isStatic == key.isStatic).map
      fun p => .data (.property p)
  | .constructor => owner.constructor.map .constructor
  | .method => (resolveMethod? owner key).map .method

end Registry

end Reflection
