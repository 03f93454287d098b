import Reflection.Access.Accessor
import Reflection.Access.Invoker
import Reflection.Cache.Memo
import Reflection.Dispatch.Overload

/-!
# Accessor caches

A cache belongs to one registry, which no longer changes, and keeps every accessor, member table
and resolved call that was asked for. Asking again gives the stored item.

* `getter`, `setter`, `invoker`, `constructor`: accessors by the key of the descriptor.
* `memberTable`: the table of a type.
* `resolveCall`: the overload for the types of the arguments.
-/

set_option autoImplicit false

namespace Reflection

/-- How a member is accessed. -/
inductive AccessKind where
  | get
  | set
  | invoke
  | construct
  deriving DecidableEq

namespace AccessKind

/-- The name of the kind. -/
def text : AccessKind → String
  | get => "get"
  | set => "set"
  | invoke => "invoke"
  | construct => "construct"

end AccessKind

/-- A compiled accessor of any kind. -/
inductive Accessor where
  | getter (it : Getter)
  | setter (it : Setter)
  | invoker (it : Invoker)
  | constructor (it : Constructor)

namespace Accessor

/-- How the member is accessed. -/
def kind : Accessor → AccessKind
  | getter _ => .get
  | setter _ => .set
  | invoker _ => .invoke
  | constructor _ => .construct

/-- The member that is accessed. -/
def descriptor : Accessor → MemberDescriptor
  | getter g => g.descriptor
  | setter s => s.descriptor
  | invoker i => i.descriptor
  | constructor c => c.descriptor

/-- The accessor with its member, for diagnostics. -/
def debug : Accessor → String
  | getter g => g.debug
  | setter s => s.debug
  | invoker i => i.debug
  | constructor c => c.debug

end Accessor

namespace Registry

/-- The accessor of one kind for the member that a descriptor denotes. -/
def compile (r : Registry) (kind : AccessKind) (d : MemberDescriptor) :
    Except AccessError Accessor :=
  match kind with
  | .get => (Getter.compile r d).map .getter
  | .set => (Setter.compile r d).map .setter
  | .invoke => (Invoker.compile r d).map .invoker
  | .construct => (Constructor.compile r d.declaring).map .constructor

end Registry

/-- What a dynamic call is told apart by: the type of the target, the name, and the types of the
arguments. -/
structure CallShape where
  type : TypeId
  name : String
  args : List (Option TypeKey)
  deriving DecidableEq

/-- Everything that was asked of one registry. -/
structure AccessorCache where
  registry : Registry
  getters : Memo MemberKey Getter
  setters : Memo MemberKey Setter
  invokers : Memo MemberKey Invoker
  constructors : Memo TypeId Constructor
  tables : Memo TypeId MemberTable
  calls : Memo CallShape MemberDescriptor

namespace AccessorCache

/-- A cache that nothing was asked of. -/
def ofRegistry (r : Registry) : AccessorCache :=
  ⟨r, .empty, .empty, .empty, .empty, .empty, .empty⟩

/-- The number of stored accessors. -/
def size (c : AccessorCache) : Nat :=
  c.getters.size + c.setters.size + c.invokers.size + c.constructors.size

/-- The getter of a member. -/
def getter (c : AccessorCache) (d : MemberDescriptor) :
    Except AccessError (Stored Getter) × AccessorCache :=
  let (result, getters) := c.getters.getOrMake d.key (Getter.compile c.registry d)
  (result, { c with getters := getters })

/-- The setter of a member. -/
def setter (c : AccessorCache) (d : MemberDescriptor) :
    Except AccessError (Stored Setter) × AccessorCache :=
  let (result, setters) := c.setters.getOrMake d.key (Setter.compile c.registry d)
  (result, { c with setters := setters })

/-- The invoker of a method. -/
def invoker (c : AccessorCache) (d : MemberDescriptor) :
    Except AccessError (Stored Invoker) × AccessorCache :=
  let (result, invokers) := c.invokers.getOrMake d.key (Invoker.compile c.registry d)
  (result, { c with invokers := invokers })

/-- The constructor of a type. -/
def constructor (c : AccessorCache) (type : TypeId) :
    Except AccessError (Stored Constructor) × AccessorCache :=
  let (result, constructors) := c.constructors.getOrMake type (Constructor.compile c.registry type)
  (result, { c with constructors := constructors })

/-- The accessor of one kind for a member. Only the descriptor of a constructor has one. -/
def accessor (c : AccessorCache) (kind : AccessKind) (d : MemberDescriptor) :
    Except AccessError (Stored Accessor) × AccessorCache :=
  match kind with
  | .get => (c.getter d).map (Except.map (.map .getter)) id
  | .set => (c.setter d).map (Except.map (.map .setter)) id
  | .invoke => (c.invoker d).map (Except.map (.map .invoker)) id
  | .construct =>
    if d.kind = .constructor then
      (c.constructor d.declaring).map (Except.map (.map .constructor)) id
    else (.error d.notFound, c)

/-- The cache can give the member table of a type: the table is stored, or the walk that it is made
on comes to an end. -/
def HasTable (c : AccessorCache) (type : TypeId) : Prop :=
  (c.tables.find? type).isSome ∨ c.registry.Ends type

/-- The member table of a type. -/
def memberTable (c : AccessorCache) (type : TypeId) : MemberTable × AccessorCache :=
  match c.tables.find? type with
  | some stored => (stored.item, c)
  | none =>
    let (stored, tables) := c.tables.insert type (.build c.registry type)
    (stored.item, { c with tables := tables })

/-- The overload that a call means. A choice that was made for a table's type, a name and the
types of the arguments is kept; a failure is not. -/
def resolveCall (c : AccessorCache) (table : MemberTable) (name : String) (args : List Value) :
    Except AccessError MemberDescriptor × AccessorCache :=
  let shape : CallShape := ⟨table.type, name, args.map Value.typeKey?⟩
  let (result, calls) := c.calls.getOrMake shape (table.resolveCall name args)
  (result.map Stored.item, { c with calls := calls })

/-- The numbers of types and accessors, for diagnostics. -/
def debug (c : AccessorCache) : String :=
  "AccessorCache \x7b types: " ++ toString c.registry.size ++ ", accessors: " ++
    toString c.size ++ ", .. \x7d"

end AccessorCache

end Reflection
