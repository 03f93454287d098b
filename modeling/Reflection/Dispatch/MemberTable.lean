import Reflection.Registry.Resolution

/-!
# Member tables

A member table holds the visible members of one type, collected once from the type and its
ancestors: of the data members and of the generic methods the nearest one of each name, and of the
methods the nearest one of each name and parameter list.
-/

set_option autoImplicit false

namespace Reflection

/-- The visible members of a type, the nearest ones first. -/
structure MemberTable where
  type : TypeId
  typeName : ShortName
  dataMembers : List MemberDescriptor
  methods : List MemberDescriptor
  generics : List MemberDescriptor

namespace MemberTable

/-- The table before any member is collected. -/
def empty (type : TypeId) (typeName : ShortName) : MemberTable :=
  ⟨type, typeName, [], [], []⟩

/-- Adds a member unless one of its name is there. -/
def addByName (members : List MemberDescriptor) (d : MemberDescriptor) : List MemberDescriptor :=
  if members.any fun seen => seen.name == d.name then members else members ++ [d]

/-- Adds a method unless one of its name and parameters is there. -/
def addMethod (methods : List MemberDescriptor) (d : MemberDescriptor) : List MemberDescriptor :=
  if methods.any fun seen => seen.name == d.name && seen.key.params == d.key.params then methods
  else methods ++ [d]

/-- Adds the members of a type that nothing in the table hides. -/
def addOwner (table : MemberTable) (owner : TypeInfo) : MemberTable :=
  { table with
    dataMembers := (owner.dataMembers.map (.ofData owner)).foldl addByName table.dataMembers
    methods := (owner.methods.map (.ofMethod owner)).foldl addMethod table.methods
    generics := (owner.generics.map (.ofOpenGeneric owner)).foldl addByName table.generics }

/-- The table of a type. -/
def build (r : Registry) (type : TypeId) : MemberTable :=
  (r.ancestors type).foldl addOwner (empty type (r.nameOf type))

/-- The data member of a name. -/
def dataMember? (table : MemberTable) (name : String) : Option MemberDescriptor :=
  table.dataMembers.find? fun d => d.name == name

/-- The methods of a name. -/
def methodsNamed (table : MemberTable) (name : String) : List MemberDescriptor :=
  table.methods.filter fun d => d.name == name

/-- The generic method of a name. -/
def generic? (table : MemberTable) (name : String) : Option MemberDescriptor :=
  table.generics.find? fun d => d.name == name

/-- The type has no such member. -/
def notFound (table : MemberTable) (member : String) : AccessError :=
  .memberNotFound table.typeName member

end MemberTable

end Reflection
