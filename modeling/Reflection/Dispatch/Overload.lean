import Reflection.Dispatch.MemberTable

/-!
# Choosing an overload

Each argument has a score against a parameter, or rules the overload out. Of the overloads of a
name whose parameters fit all arguments, the one with the greatest total is called; a tie is an
error that names all tied overloads.

* `ParamInfo.score?`: the score of one argument.
* `MemberTable.resolveCall`: the choice.
-/

set_option autoImplicit false

namespace Reflection

namespace Score

/-- The argument has exactly the declared type. -/
def exact : Nat := 4

/-- The argument is a value of the declared type without any conversion of its contents. -/
def assignable : Nat := 3

/-- The argument is null and the declared type allows it. -/
def null : Nat := 2

/-- The argument is a number of a narrower kind. -/
def widening : Nat := 1

/-- The argument is only written. -/
def output : Nat := 0

end Score

namespace TypeRef

/-- Whether the value is a number of a narrower kind than the declared one. -/
def acceptsByWidening (type : TypeRef) (arg : Value) : Bool :=
  match type, arg.numKind? with
  | number wide, some narrow => narrow.widensTo wide
  | _, _ => false

/-- The score of a value that is not of exactly the declared type. -/
def inexactScore? (type : TypeRef) (arg : Value) : Option Nat :=
  match type with
  | any => some Score.assignable
  | anyObject => arg.object?.map fun _ => Score.assignable
  | nullable underlying =>
    -- One layer of null is looked through, not several.
    if arg.typeKey? = some underlying.key then some Score.assignable
    else if underlying.acceptsByWidening arg then some Score.widening
    else none
  | type => if type.acceptsByWidening arg then some Score.widening else none

/-- The score of an argument that is read. -/
def score? (type : TypeRef) (arg : Value) : Option Nat :=
  if arg.isNull then
    if type.isNullable then some Score.null else none
  else if arg.typeKey? = some type.key then some Score.exact
  else type.inexactScore? arg

end TypeRef

/-- The score of an argument against a parameter. -/
def ParamInfo.score? (p : ParamInfo) (arg : Value) : Option Nat :=
  match p.mode with
  | .out => some Score.output
  | .value | .ref => p.type.score? arg

/-- The total score of the arguments, if there are as many as parameters and each has one. -/
def totalScore? : List ParamInfo → List Value → Option Nat
  | [], [] => some 0
  | p :: params, arg :: args => do
    let first ← p.score? arg
    let rest ← totalScore? params args
    some (first + rest)
  | _, _ => none

/-- The best overloads so far: all that share the greatest total. -/
structure Leaders where
  score : Nat
  tied : List MemberDescriptor

namespace Leaders

/-- No overload fits yet. -/
def none : Leaders := ⟨0, []⟩

/-- Takes one more overload into account. -/
def consider (args : List Value) (best : Leaders) (candidate : MemberDescriptor) : Leaders :=
  match totalScore? candidate.params args with
  | .none => best
  | some total =>
    if best.tied.isEmpty || best.score < total then ⟨total, [candidate]⟩
    else if total = best.score then { best with tied := best.tied ++ [candidate] }
    else best

end Leaders

namespace MemberTable

/-- The overloads of a name that fit the arguments best. -/
def leaders (table : MemberTable) (name : String) (args : List Value) : Leaders :=
  (table.methodsNamed name).foldl (Leaders.consider args) .none

/-- The overload that a call means. -/
def resolveCall (table : MemberTable) (name : String) (args : List Value) :
    Except AccessError MemberDescriptor :=
  match (table.leaders name args).tied with
  | [] =>
    .error (table.notFound (signature name (args.map fun v => v.typeName.display)))
  | [d] => .ok d
  | tied =>
    .error (.ambiguousOverload table.typeName name (tied.map MemberDescriptor.display))

end MemberTable

end Reflection
