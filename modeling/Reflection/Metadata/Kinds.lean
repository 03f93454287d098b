/-!
# Kinds of types and members
-/

set_option autoImplicit false

namespace Reflection

/-- Who may use a member. It is kept and shown, and no access depends on it. -/
inductive Visibility where
  | pub
  | internal
  | prot
  | priv
  deriving DecidableEq

namespace Visibility

/-- The name of the visibility. -/
def text : Visibility → String
  | pub => "public"
  | internal => "internal"
  | prot => "protected"
  | priv => "private"

/-- The visibility of a name. -/
def ofText? (name : String) : Option Visibility :=
  [pub, internal, prot, priv].find? fun v => v.text == name

/-- The visibility as the debug texts show it. -/
def debug : Visibility → String
  | pub => "Public"
  | internal => "Internal"
  | prot => "Protected"
  | priv => "Private"

end Visibility

/-- What sort of type a description is about. -/
inductive TypeKind where
  | ordinary
  | plain
  | abstract
  | interface
  deriving DecidableEq

namespace TypeKind

/-- The name of the kind. -/
def text : TypeKind → String
  | ordinary => "class"
  | plain => "struct"
  | abstract => "abstract"
  | interface => "interface"

/-- The kind of a name. -/
def ofText? (name : String) : Option TypeKind :=
  [ordinary, plain, abstract, interface].find? fun k => k.text == name

/-- Whether types of the kind have instances of their own. -/
def isInstantiable : TypeKind → Bool
  | ordinary | plain => true
  | abstract | interface => false

end TypeKind

/-- What sort of member a descriptor is about. -/
inductive MemberKind where
  | field
  | property
  | constructor
  | method
  deriving DecidableEq

namespace MemberKind

/-- The name of the kind. -/
def text : MemberKind → String
  | field => "field"
  | property => "property"
  | constructor => "constructor"
  | method => "method"

end MemberKind

end Reflection
