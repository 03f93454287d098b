import Reflection.Text.Alphanumeric

/-!
# Short names of types

A type is known by its full path, such as `store::model::Pair<a::Echo, b::Wrap<c::Person>>`.
Messages show a shorter text in which every qualifier is left out, wherever it stands:
`Pair<Echo, Wrap<Person>>`.

* `ShortName.display` is the shortened text.
* `ShortName.ident` is the bare identifier: no type arguments, no qualifier.
-/

set_option autoImplicit false

namespace Reflection

/-- The name of a type, kept as its full path. -/
structure ShortName where
  /-- The path with every qualifier. -/
  full : String
  deriving DecidableEq

namespace ShortName

/-- Whether `c` may stand inside a path segment. -/
def isWordChar (c : Char) : Bool :=
  isAlphanumeric c || c == '_'

/-- Drops every qualifier from the text that follows. The first argument is the part of the
current segment read so far: a double colon discards it, a character outside words ends it,
and a colon that stands alone belongs to it. -/
def abbreviate (segment : List Char) : List Char → List Char
  | [] => segment
  | ':' :: ':' :: rest => abbreviate [] rest
  | c :: rest =>
    if c == ':' || isWordChar c then abbreviate (segment ++ [c]) rest
    else segment ++ c :: abbreviate [] rest

/-- The shortened text. -/
def display (name : ShortName) : String :=
  String.ofList (abbreviate [] name.full.toList)

/-- What follows the last double colon, if there is one. -/
def afterLastSeparator : List Char → Option (List Char)
  | [] => none
  | c :: rest =>
    match afterLastSeparator rest with
    | some tail => some tail
    | none =>
      match c, rest with
      | ':', ':' :: tail => some tail
      | _, _ => none

/-- The identifier at the end of a path, with the type arguments cut off first. -/
def identOf (path : List Char) : List Char :=
  let head := path.takeWhile (· != '<')
  (afterLastSeparator head).getD head

/-- The bare identifier of the type. -/
def ident (name : ShortName) : String :=
  String.ofList (identOf name.full.toList)

instance : ToString ShortName := ⟨display⟩

-- Qualifiers are left out inside the type arguments too.
example : (ShortName.mk "a::Pair<b::Echo, c::Wrap<d::Person>>").display =
    "Pair<Echo, Wrap<Person>>" := by
  decide +kernel

example : (ShortName.mk "a::Pair<b::Echo, c::Wrap<d::Person>>").ident = "Pair" := by
  decide +kernel

end ShortName

end Reflection
