import Reflection.Access.Binding

/-!
# Getters and setters

Compiling a descriptor looks its metadata up once and binds it to the way to every target. The
accessor then works without the registry.

* `Getter.compile`, `Getter.get`: reading a field or property.
* `Setter.compile`, `Setter.set`: writing one. The target is bound before the value is converted.
-/

set_option autoImplicit false

namespace Reflection

/-- Reads one field or property. -/
structure Getter where
  descriptor : MemberDescriptor
  binding : TargetBinding
  source : DataMember

namespace Getter

/-- The getter of the field or property that a descriptor denotes. -/
def compile (r : Registry) (d : MemberDescriptor) : Except AccessError Getter :=
  match r.resolve? d.key with
  | some (.data source) => .ok ⟨d, .ofDescriptor r d, source⟩
  | _ => .error d.notFound

/-- The value for a target. -/
def get (g : Getter) (target : Option Target) (store : Store) : Except AccessError Value := do
  let part ← g.binding.bind .read target
  match g.source.get? g.descriptor.declaring part store with
  | some v => .ok v
  | none => .error g.descriptor.unrelated

/-- The getter with its member, for diagnostics. -/
def debug (g : Getter) : String :=
  "Getter(" ++ g.descriptor.display ++ ")"

end Getter

/-- Writes one field or property. -/
structure Setter where
  descriptor : MemberDescriptor
  binding : TargetBinding
  source : DataMember
  /-- A member without setter has no accessor for writing. -/
  writable : source.isWritable

namespace Setter

/-- The setter of the field or property that a descriptor denotes. -/
def compile (r : Registry) (d : MemberDescriptor) : Except AccessError Setter :=
  match r.resolve? d.key with
  | some (.data source) =>
    if h : source.isWritable then .ok ⟨d, .ofDescriptor r d, source, h⟩
    else .error (.noSetter d.display)
  | _ => .error d.notFound

/-- Writes a value for a target. -/
def set (s : Setter) (target : Option Target) (v : Value) (store : Store) :
    Except AccessError Store := do
  let part ← s.binding.bind .write target
  match s.source.set? s.descriptor.declaring part v store with
  | some written => written.mapError .valueConversion
  | none => .error s.descriptor.unrelated

/-- The declared type of what is written. -/
def valueType (s : Setter) : Option TypeRef :=
  s.descriptor.valueType

/-- The setter with its member, for diagnostics. -/
def debug (s : Setter) : String :=
  "Setter(" ++ s.descriptor.display ++ ")"

end Setter

end Reflection
