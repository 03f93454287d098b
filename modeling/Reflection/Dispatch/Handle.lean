import Reflection.Cache.AccessorCache

/-!
# Access by name

A handle is one target seen through a cache: its members are read, written and called by name. The
member table of the target's type says which member a name means, and the cache keeps what was
compiled.

* `Handle.get`, `Handle.set`: data members.
* `Handle.call`, `Handle.callGeneric`: methods, and generic methods with given type arguments.
-/

set_option autoImplicit false

namespace Reflection

/-- A target that is used by name. -/
structure Handle where
  target : Target
  deriving DecidableEq

namespace Handle

/-- The member table of the target. -/
def table (h : Handle) (c : AccessorCache) : MemberTable × AccessorCache :=
  c.memberTable h.target.type

/-- The name of the target's type. -/
def typeName (h : Handle) (c : AccessorCache) : ShortName × AccessorCache :=
  (h.table c).map MemberTable.typeName id

/-- The description of the target's type. -/
def typeInfo? (h : Handle) (c : AccessorCache) : Option TypeInfo :=
  c.registry.find? h.target.type

/-- Reads a data member. -/
def get (h : Handle) (c : AccessorCache) (name : String) (store : Store) :
    Except AccessError Value × AccessorCache :=
  let (table, c) := h.table c
  match table.dataMember? name with
  | none => (.error (table.notFound name), c)
  | some d =>
    match c.getter d with
    | (.error e, c) => (.error e, c)
    | (.ok getter, c) => (getter.item.get (some h.target) store, c)

/-- Writes a data member. -/
def set (h : Handle) (c : AccessorCache) (name : String) (v : Value) (store : Store) :
    Except AccessError Store × AccessorCache :=
  let (table, c) := h.table c
  match table.dataMember? name with
  | none => (.error (table.notFound name), c)
  | some d =>
    match c.setter d with
    | (.error e, c) => (.error e, c)
    | (.ok setter, c) => (setter.item.set (some h.target) v store, c)

/-- Calls the method that a descriptor denotes. -/
def invoke (h : Handle) (c : AccessorCache) (d : MemberDescriptor) (args : List Value)
    (store : Store) : Invocation × AccessorCache :=
  match c.invoker d with
  | (.error e, c) => (⟨.error e, args, store⟩, c)
  | (.ok invoker, c) => (invoker.item.invoke (some h.target) args store, c)

/-- Calls the overload of a name that fits the arguments. -/
def call (h : Handle) (c : AccessorCache) (name : String) (args : List Value) (store : Store) :
    Invocation × AccessorCache :=
  let (table, c) := h.table c
  match c.resolveCall table name args with
  | (.error e, c) => (⟨.error e, args, store⟩, c)
  | (.ok d, c) => h.invoke c d args store

/-- Calls a generic method with given type arguments. -/
def callGeneric (h : Handle) (c : AccessorCache) (name : String) (typeArgs : List TypeRef)
    (args : List Value) (store : Store) : Invocation × AccessorCache :=
  let (table, c) := h.table c
  match table.generic? name with
  | none => (⟨.error (table.notFound name), args, store⟩, c)
  | some openMethod =>
    match c.registry.closeGeneric openMethod typeArgs with
    | .error e => (⟨.error e, args, store⟩, c)
    | .ok d => h.invoke c d args store

/-- The handle with the name of its type, for diagnostics. -/
def debug (h : Handle) (c : AccessorCache) : String × AccessorCache :=
  (h.typeName c).map
    (fun name => "DynamicHandle \x7b type_name: " ++ name.display ++ ", .. \x7d") id

end Handle

end Reflection
