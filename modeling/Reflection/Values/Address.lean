import Reflection.Types.TypeRef

/-!
# Where things are

An `Address` says where an instance lives, a `Place` names one cell of it. State is kept per
place, so two ways to the same instance see the same state.
-/

set_option autoImplicit false

namespace Reflection

/-- Where an instance lives. -/
inductive Address where
  /-- An instance of its own, numbered when it is made. -/
  | numbered (serial : Nat)
  /-- The part of an instance that is an instance of its base type. -/
  | part (base : TypeId) (whole : Address)
  /-- What belongs to a type itself. -/
  | statics (type : TypeId)
  /-- The instance that a cell refers to before the cell is written. -/
  | initial (owner : Address) (cell : String) (type : TypeRef)
  deriving DecidableEq

/-- A cell of an instance. Cells of one name and different types are different cells. -/
structure Place where
  owner : Address
  cell : String
  type : TypeRef
  deriving DecidableEq

/-- A cell name of an instance, before a type is chosen. -/
structure Cell where
  owner : Address
  name : String
  deriving DecidableEq

/-- The cell for values of a type. -/
def Cell.place (cell : Cell) (type : TypeRef) : Place :=
  ⟨cell.owner, cell.name, type⟩

/-- An instance of a known type. -/
structure Target where
  address : Address
  type : TypeId
  deriving DecidableEq

/-- Something that is either shared by all instances of a type, or there for each of them. -/
inductive Scoped (α : Type) where
  | shared (it : α)
  | perInstance (each : Address → α)

namespace Scoped

variable {α : Type}

/-- Whether all instances share it. -/
def isStatic : Scoped α → Bool
  | shared _ => true
  | perInstance _ => false

/-- What is there for a target. What is shared needs no target; what each instance has needs a
target whose type is exactly the owner. -/
def at? (owner : TypeId) (target : Option Target) : Scoped α → Option α
  | shared it => some it
  | perInstance each => target.bind fun t => if t.type = owner then some (each t.address) else none

@[simp]
theorem at?_shared (owner : TypeId) (target : Option Target) (it : α) :
    (shared it).at? owner target = some it :=
  rfl

/-- A target of the owner's type is never refused. -/
theorem at?_some (owner : TypeId) (address : Address) (s : Scoped α) :
    (s.at? owner (some ⟨address, owner⟩)).isSome := by
  cases s <;> simp [at?]

end Scoped

end Reflection
