import Reflection.Metadata.DataMember
import Reflection.Metadata.Method

/-!
# Descriptions of types

A `TypeInfo` describes one type: its kind, its base and its members. A description is built from a
`TypeDraft`, which may be wrong in two ways: a method may belong to another type, and an instance
of a generic method may not fit it. `TypeDraft.build` refuses the first such fault, so the members
of every `TypeInfo` are its own.

Inheritance is embedding: an instance of a type has a part that is an instance of the base type,
and an `Upcast` goes from the instance to that part. A base is declared with two ways to the part,
one for looking at it and one for changing it. Nothing checks that both lead to one part.
-/

set_option autoImplicit false

namespace Reflection

/-- What a target is used for. -/
inductive TargetUse where
  /-- The target is only looked at. -/
  | read
  /-- The target may be changed. -/
  | write
  deriving DecidableEq

/-- The base of a type, and where its instance lies inside an instance of the type: for uses that
look at it, and for uses that may change it. -/
structure BaseInfo where
  type : TypeId
  readPart : Address → Address
  writePart : Address → Address

namespace BaseInfo

/-- Where the instance of the base lies for a use. -/
def part (base : BaseInfo) : TargetUse → Address → Address
  | .read => base.readPart
  | .write => base.writePart

/-- A base that lies inside the instance as a part of its own, for every use. -/
def embedded (base : TypeId) : BaseInfo :=
  ⟨base, .part base, .part base⟩

end BaseInfo

/-- The step from an instance of one type to the part that is an instance of its base. -/
structure Upcast where
  derived : TypeId
  base : BaseInfo

namespace Upcast

/-- The part of a target; a target of another type has none. -/
def part? (step : Upcast) (use : TargetUse) (target : Target) : Option Target :=
  if target.type = step.derived then some ⟨step.base.part use target.address, step.base.type⟩
  else none

/-- The part reached by several steps. -/
def follow? (use : TargetUse) : List Upcast → Target → Option Target
  | [], target => some target
  | step :: rest, target => (step.part? use target).bind (follow? use rest)

end Upcast

/-- Every instance of the generic method fits it and belongs to the type. -/
def GenericMethodInfo.Fits (g : GenericMethodInfo) (owner : TypeId) : Prop :=
  ∀ i ∈ g.instances,
    i.typeArgs.length = g.arity ∧ i.method.name = g.name ∧ i.method.declaring = owner

/-- The description of a type. -/
structure TypeInfo where
  id : TypeId
  kind : TypeKind
  base : Option BaseInfo
  fields : List FieldInfo
  properties : List PropertyInfo
  methods : List MethodInfo
  generics : List GenericMethodInfo
  constructor : Option ConstructorInfo
  methods_declaring : ∀ m ∈ methods, m.declaring = id
  generics_fit : ∀ g ∈ generics, g.Fits id

namespace TypeInfo

/-- The name of the type. -/
def name (info : TypeInfo) : ShortName :=
  info.id.name

/-- The step to the base. -/
def upcast? (info : TypeInfo) : Option Upcast :=
  info.base.map (Upcast.mk info.id)

/-- The first field of a name. -/
def field? (info : TypeInfo) (name : String) : Option FieldInfo :=
  info.fields.find? fun f => f.name == name

/-- The first property of a name. -/
def property? (info : TypeInfo) (name : String) : Option PropertyInfo :=
  info.properties.find? fun p => p.name == name

/-- The fields and then the properties. -/
def dataMembers (info : TypeInfo) : List DataMember :=
  info.fields.map .field ++ info.properties.map .property

/-- The field of a name, or else the property of that name. -/
def dataMember? (info : TypeInfo) (name : String) : Option DataMember :=
  (info.field? name).map DataMember.field <|> (info.property? name).map DataMember.property

/-- The methods of a name, generic ones left out. -/
def methodsNamed (info : TypeInfo) (name : String) : List MethodInfo :=
  info.methods.filter fun m => m.name == name

/-- The first generic method of a name. -/
def generic? (info : TypeInfo) (name : String) : Option GenericMethodInfo :=
  info.generics.find? fun g => g.name == name

end TypeInfo

/-- Why a description is refused. -/
inductive BuildError where
  /-- A method belongs to another type. -/
  | foreignMethod (method : String) (type : ShortName)
  /-- An instance of a generic method has the wrong number of type arguments. -/
  | typeArgumentCount (generic : String) (arity : Nat)
  /-- A method of another name or type is no instance of the generic method. -/
  | foreignInstance (method : String) (type : ShortName) (generic : String)
  deriving DecidableEq

namespace BuildError

/-- The text of the error. -/
def message : BuildError → String
  | foreignMethod method type =>
    "`" ++ method ++ "` cannot be registered on `" ++ type.display ++ "`"
  | typeArgumentCount generic arity =>
    "`" ++ generic ++ "` takes " ++ toString arity ++ " type arguments"
  | foreignInstance method type generic =>
    "`" ++ method ++ "` is not an instantiation of `" ++ type.display ++ "::" ++ generic ++ "`"

end BuildError

/-- What a description is built from. -/
structure TypeDraft where
  id : TypeId
  kind : TypeKind
  base : Option BaseInfo
  fields : List FieldInfo
  properties : List PropertyInfo
  methods : List MethodInfo
  generics : List GenericMethodInfo
  constructor : Option ConstructorInfo

namespace TypeDraft

/-- A draft without members. -/
def empty (id : TypeId) (kind : TypeKind) : TypeDraft :=
  ⟨id, kind, none, [], [], [], [], none⟩

/-- What is wrong with a method of a type. -/
def methodFault? (owner : TypeId) (m : MethodInfo) : Option BuildError :=
  if m.declaring = owner then none else some (.foreignMethod m.display owner.name)

/-- What is wrong with an instance of a generic method. -/
def instanceFault? (owner : TypeId) (g : GenericMethodInfo) (i : GenericInstance) :
    Option BuildError :=
  if i.typeArgs.length ≠ g.arity then some (.typeArgumentCount g.name g.arity)
  else if i.method.name = g.name ∧ i.method.declaring = owner then none
  else some (.foreignInstance i.method.display owner.name g.name)

/-- The first fault of the draft, methods before generic methods. -/
def fault? (draft : TypeDraft) : Option BuildError :=
  draft.methods.findSome? (methodFault? draft.id) <|>
    draft.generics.findSome? fun g => g.instances.findSome? (instanceFault? draft.id g)

theorem methodFault?_eq_none_iff {owner : TypeId} {m : MethodInfo} :
    methodFault? owner m = none ↔ m.declaring = owner := by
  unfold methodFault?
  split <;> simp_all

theorem instanceFault?_eq_none_iff {owner : TypeId} {g : GenericMethodInfo}
    {i : GenericInstance} :
    instanceFault? owner g i = none ↔
      i.typeArgs.length = g.arity ∧ i.method.name = g.name ∧ i.method.declaring = owner := by
  unfold instanceFault?
  split
  · simp_all
  · split <;> simp_all

/-- A draft without fault has only members of its own. -/
theorem fault?_eq_none_iff {draft : TypeDraft} :
    draft.fault? = none ↔
      (∀ m ∈ draft.methods, m.declaring = draft.id) ∧ ∀ g ∈ draft.generics, g.Fits draft.id := by
  simp [fault?, methodFault?_eq_none_iff, instanceFault?_eq_none_iff, GenericMethodInfo.Fits]

/-- The description of the draft, or its first fault. -/
def build (draft : TypeDraft) : Except BuildError TypeInfo :=
  match h : draft.fault? with
  | some fault => .error fault
  | none =>
    .ok {
      id := draft.id
      kind := draft.kind
      base := draft.base
      fields := draft.fields
      properties := draft.properties
      methods := draft.methods
      generics := draft.generics
      constructor := draft.constructor
      methods_declaring := (fault?_eq_none_iff.1 h).1
      generics_fit := (fault?_eq_none_iff.1 h).2 }

theorem id_of_build {draft : TypeDraft} {info : TypeInfo} (h : draft.build = .ok info) :
    info.id = draft.id := by
  unfold build at h
  split at h
  · cases h
  · cases h
    rfl

end TypeDraft

namespace TypeInfo

/-- The description of an interface: it has no members. -/
def ofInterface (id : TypeId) : TypeInfo where
  id := id
  kind := .interface
  base := none
  fields := []
  properties := []
  methods := []
  generics := []
  constructor := none
  methods_declaring := by simp
  generics_fit := by simp

end TypeInfo

end Reflection
