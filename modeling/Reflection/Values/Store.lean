import Reflection.Values.Coercion

/-!
# Stores

A store holds the contents of cells and of shared instances, and the names that were given to
shared instances. A cell that was never written reads as the initial value of its type.

* `Store.read_write_self`, `Store.read_write_of_ne`: a written cell reads as what was written, and
  no other cell changes.
* `Store.allocate` makes a new instance.
* `Store.named?` finds an instance by its name, `Store.nameOf?` a name by its instance.
-/

set_option autoImplicit false

namespace Reflection

namespace Place

/-- The reference that the place holds before it is written. -/
def initialObject (place : Place) (type : TypeId) : Value :=
  .object (.ofTarget ⟨.initial place.owner place.cell place.type, type⟩)

/-- The value of the place before it is written. A reference starts with an instance that belongs
to the place. -/
def initialValue (place : Place) : Value :=
  match place.type with
  | .bool => .bool false
  | .char => .char 'a'
  | .number (.int kind) => .int ⟨kind, 0, by cases kind <;> decide⟩
  | .number (.float kind) => .float (.ofInt kind 0)
  | .string => .string ""
  | .shared type => place.initialObject type
  | .anyObject => place.initialObject (.number (.int .u64))
  | .any => .null
  | .nullable _ => .null

end Place

/-- The state of all instances. -/
structure Store where
  /-- The cells that were written, the last write first. -/
  cells : List (Place × Value)
  /-- What shared instances hold that were made from a value. -/
  contents : List (Address × Value)
  /-- The names that were given, the first one given first. -/
  names : List (String × Object)
  /-- The serial number of the next new instance. -/
  next : Nat

namespace Store

/-- The store before anything is made. -/
def empty : Store := ⟨[], [], [], 0⟩

/-- The value of a cell. -/
def read (store : Store) (place : Place) : Value :=
  (store.cells.lookup place).getD place.initialValue

/-- Writes a cell. -/
def write (store : Store) (place : Place) (value : Value) : Store :=
  { store with cells := (place, value) :: store.cells }

/-- Converts a value to the type of a cell and writes it. -/
def assign (store : Store) (place : Place) (value : Value) : Except ConversionError Store :=
  (place.type.coerce value).map (store.write place)

/-- Makes a new instance. -/
def allocate (store : Store) : Address × Store :=
  (.numbered store.next, { store with next := store.next + 1 })

/-- Makes a new shared instance that holds a value. -/
def hold (store : Store) (value : Value) : Address × Store :=
  let (address, store) := store.allocate
  (address, { store with contents := (address, value) :: store.contents })

/-- The value that a shared instance was made from. -/
def held? (store : Store) (address : Address) : Option Value :=
  store.contents.lookup address

/-- What a reference gives when it is asked for an instance of a type. -/
def downcast? (store : Store) (type : TypeId) (o : Object) : Option Value :=
  if o.type = type then store.held? o.address else none

/-- Gives a name to a shared instance. What the name stands for already stays. -/
def giveName (store : Store) (name : String) (o : Object) : Store :=
  { store with names := store.names ++ [(name, o)] }

/-- The shared instance of a name. -/
def named? (store : Store) (name : String) : Option Object :=
  store.names.lookup name

/-- The first name that was given to an instance. -/
def nameOf? (store : Store) (o : Object) : Option String :=
  (store.names.find? fun entry => entry.2.same o).map Prod.fst

@[simp]
theorem read_write_self (store : Store) (place : Place) (value : Value) :
    (store.write place value).read place = value := by
  simp [read, write]

theorem read_write_of_ne (store : Store) {place other : Place} (h : other ≠ place)
    (value : Value) : (store.write place value).read other = store.read other := by
  have hb : (other == place) = false := by simpa using h
  simp [read, write, List.lookup_cons, hb]

/-- A name that was given once keeps its meaning. -/
theorem named?_giveName_of_named? {store : Store} {name other : String} {o : Object}
    (h : store.named? name = some o) (new : Object) :
    (store.giveName other new).named? name = some o := by
  have hlookup : store.names.lookup name = some o := h
  simp [giveName, named?, List.lookup_append, hlookup]

end Store

end Reflection
