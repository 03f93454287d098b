import Reflection.Registry.Resolution
import Reflection.Types.TypeMap

/-!
# Binding of targets

A member works on instances of the type that declares it. A `TargetBinding` is made once per
accessor and knows the way from every registered type that derives from the declaring one; binding
a target then only looks the way up and follows it, for the use that the accessor makes of the
target.

A static member needs no target and ignores one that is given.
-/

set_option autoImplicit false

namespace Reflection

/-- How targets of a member are bound. -/
inductive TargetBinding where
  /-- The member belongs to the type itself. -/
  | static
  /-- The member belongs to each instance: `paths` holds the way from each other type whose
  instances have one of the declaring type inside. -/
  | each (member : String) (declaring : TypeId) (paths : TypeMap (List Upcast))

namespace TargetBinding

/-- Adds the way from one more type, if there is one and the type is another one. -/
def addPath (r : Registry) (declaring : TypeId) (paths : TypeMap (List Upcast))
    (info : TypeInfo) : TypeMap (List Upcast) :=
  if info.id = declaring then paths
  else (r.upcastPath? info.id declaring).elim paths (paths.insert info.id)

/-- The ways to a type from all other registered types. -/
def paths (r : Registry) (declaring : TypeId) : TypeMap (List Upcast) :=
  r.entries.foldl (addPath r declaring) .empty

/-- The binding for a member can be made: every search for a way comes to an end. -/
def Ends (r : Registry) (d : MemberDescriptor) : Prop :=
  d.isStatic = false → ∀ info ∈ r.entries, info.id ≠ d.declaring →
    r.Stops info.id fun owner => owner.id == d.declaring

/-- The binding for a member. -/
def ofDescriptor (r : Registry) (d : MemberDescriptor) : TargetBinding :=
  if d.isStatic then static else each d.display d.declaring (paths r d.declaring)

/-- The instance of the declaring type inside a target, if there is one. -/
def part? (use : TargetUse) (declaring : TypeId) (paths : TypeMap (List Upcast))
    (target : Target) : Option Target :=
  if target.type = declaring then some target
  else (paths.find? target.type).bind fun path => Upcast.follow? use path target

/-- The part of a target that the member works on; none for a static member. -/
def bind (use : TargetUse) (target : Option Target) :
    TargetBinding → Except AccessError (Option Target)
  | static => .ok none
  | each member declaring paths =>
    match target with
    | none => .error (.invalidTarget member declaring.name .missing)
    | some t =>
      match part? use declaring paths t with
      | some part => .ok (some part)
      | none => .error (.invalidTarget member declaring.name .unrelated)

end TargetBinding

/-- The member was given a target of an unrelated type. -/
def MemberDescriptor.unrelated (d : MemberDescriptor) : AccessError :=
  .invalidTarget d.display d.declaringName .unrelated

end Reflection
