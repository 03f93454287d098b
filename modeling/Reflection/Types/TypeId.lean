import Reflection.Number.Kind
import Reflection.Text.ShortName

/-!
# Type identities

A type is identified by its structure: two identities are equal exactly when they denote the same
type. Every type has a full path, and its display name is the short form of that path.
-/

set_option autoImplicit false

namespace Reflection

/-- The identity of a type. -/
inductive TypeId where
  | bool
  | char
  | number (kind : NumKind)
  | string
  /-- References to shared instances of any type. -/
  | object
  /-- Dynamic values of any type. -/
  | value
  /-- `inner` or nothing. -/
  | optional (inner : TypeId)
  /-- References to shared instances of `inner`. -/
  | shared (inner : TypeId)
  /-- A declared type, known by its full path. -/
  | named (path : String)
  deriving DecidableEq

namespace TypeId

/-- The full path of the type. -/
def path : TypeId → String
  | bool => "bool"
  | char => "char"
  | number kind => kind.text
  | string => "String"
  | object => "Object"
  | value => "Value"
  | optional inner => "Option<" ++ inner.path ++ ">"
  | shared inner => "Arc<" ++ inner.path ++ ">"
  | named path => path

/-- The name of the type. -/
def name (type : TypeId) : ShortName :=
  ⟨type.path⟩

/-- What a text holds between a head and a closing angle bracket. -/
def argument? (head text : List Char) : Option (List Char) :=
  if head.isPrefixOf text && text.getLast? == some '>' then some (text.drop head.length).dropLast
  else none

/-- The type without arguments that a text names, where `named` knows the declared types. -/
def simpleOfText? (named : String → Option TypeId) (text : String) : Option TypeId :=
  match named text, NumKind.ofText? text with
  | some type, _ => some type
  | none, some kind => some (number kind)
  | none, none =>
    match text with
    | "bool" => some bool
    | "char" => some char
    | "String" => some string
    | "Object" => some object
    | "Value" => some value
    | _ => none

/-- The type that the characters of a text name, with at most a given number of arguments inside
each other. -/
def ofChars? (named : String → Option TypeId) : Nat → List Char → Option TypeId
  | 0, _ => none
  | depth + 1, text =>
    match simpleOfText? named (String.ofList text) with
    | some type => some type
    | none =>
      match argument? "Option<".toList text, argument? "Arc<".toList text with
      | some inner, _ => (ofChars? named depth inner).map optional
      | none, some inner => (ofChars? named depth inner).map shared
      | none, none => none

/-- The type that a text names, where `named` knows the declared types. -/
def ofText? (named : String → Option TypeId) (text : String) : Option TypeId :=
  ofChars? named (text.length + 1) text.toList

end TypeId

end Reflection
