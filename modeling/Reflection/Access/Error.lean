import Reflection.Values.Coercion

/-!
# Failures of access

Why a member cannot be found, compiled or used. `AccessError.message` words each cause.
-/

set_option autoImplicit false

namespace Reflection

/-- What was given instead of a suitable target. -/
inductive TargetFault where
  | missing
  | unrelated
  deriving DecidableEq

namespace TargetFault

/-- The fault as messages show it. -/
def text : TargetFault → String
  | missing => "no target"
  | unrelated => "a target of an unrelated type"

end TargetFault

/-- Why an access fails. -/
inductive AccessError where
  | memberNotFound (type : ShortName) (member : String)
  | ambiguousOverload (type : ShortName) (member : String) (candidates : List String)
  | arityMismatch (member : String) (expected actual : Nat)
  | invalidTarget (member : String) (expected : ShortName) (found : TargetFault)
  | valueConversion (cause : ConversionError)
  | noParameterlessConstructor (type : ShortName)
  | openGenericMethod (member : String) (arity : Nat)
  | noSetter (member : String)
  deriving DecidableEq

namespace AccessError

/-- The text of the error. -/
def message : AccessError → String
  | memberNotFound type member =>
    "`" ++ type.display ++ "` has no member matching `" ++ member ++ "`"
  | ambiguousOverload type member candidates =>
    "call to `" ++ type.display ++ "::" ++ member ++ "` is ambiguous between: " ++
      ", ".intercalate candidates
  | arityMismatch member expected actual =>
    "`" ++ member ++ "` takes " ++ toString expected ++ " arguments, " ++ toString actual ++
      " were given"
  | invalidTarget member expected found =>
    "`" ++ member ++ "` needs a target of type `" ++ expected.display ++ "`, found " ++ found.text
  | valueConversion cause => cause.message
  | noParameterlessConstructor type =>
    "`" ++ type.display ++ "` has no parameterless constructor"
  | openGenericMethod member arity =>
    "generic method `" ++ member ++ "` still has " ++ toString arity ++
      " unbound type parameters"
  | noSetter member => "property `" ++ member ++ "` has no setter"

end AccessError

/-- A conversion as a step of an access. -/
def TypeRef.convert (type : TypeRef) (v : Value) : Except AccessError Value :=
  (type.coerce v).mapError .valueConversion

end Reflection
