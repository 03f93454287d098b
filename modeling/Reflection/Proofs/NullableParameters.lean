import Reflection.Proofs.CanonicalValues

/-!
# Nullable parameters

Conversion to a nullable type looks through any number of layers to the type below; the score of a
nullable parameter looks at the type below once and by two rules only, exactness and widening. The
two agree where these are all the rules that the type below has: where its values carry its key
(`TypeRef.isSpecific`). There a nullable parameter takes what the plain one takes, with the same
score or the assignable one (`TypeRef.score?_nullable_of_isSpecific`). For any value, for any
reference and for a type that is nullable already, it takes null and nothing else
(`TypeRef.score?_nullable_of_not_isSpecific`).

Main statement: `ParamInfo.nullableKeeps`. What it leaves out is lost: `ParamInfo.nullable_refuses`.
-/

set_option autoImplicit false

namespace Reflection

namespace TypeRef

variable {type : TypeRef} {arg : Value}

/-- Whether values carry the key of the type: it is neither nullable nor open to values of several
types. -/
def isSpecific : TypeRef → Bool
  | any | anyObject | nullable _ => false
  | _ => true

theorem typeKey?_ne_of_not_isSpecific (h : type.isSpecific = false) :
    arg.typeKey? ≠ some type.key := by
  cases type with
  | any => cases arg <;> simp [Value.typeKey?, key, typeClass]
  | anyObject => cases arg <;> simp [Value.typeKey?, key, typeClass]
  | nullable underlying => cases arg <;> simp [Value.typeKey?, key, typeClass]
  | _ => cases h

theorem acceptsByWidening_of_not_isSpecific (h : type.isSpecific = false) :
    type.acceptsByWidening arg = false := by
  cases type with
  | any => rfl
  | anyObject => rfl
  | nullable underlying => rfl
  | _ => cases h

/-- A value that is not null is scored by exactness and widening, if the type is specific. -/
theorem score?_of_isSpecific (h : type.isSpecific) (harg : arg ≠ .null) :
    type.score? arg =
      if arg.typeKey? = some type.key then some Score.exact
      else if type.acceptsByWidening arg then some Score.widening else none := by
  rw [score?, if_neg (Value.isNull_iff.not.2 harg)]
  cases type with
  | any => cases h
  | anyObject => cases h
  | nullable underlying => cases h
  | _ => rfl

/-- Behind a layer of null it is scored by the same two rules, whatever the type. -/
theorem score?_nullable (harg : arg ≠ .null) :
    (nullable type).score? arg =
      if arg.typeKey? = some type.key then some Score.assignable
      else if type.acceptsByWidening arg then some Score.widening else none := by
  have hkey : arg.typeKey? ≠ some (nullable type).key := typeKey?_ne_of_not_isSpecific rfl
  rw [score?, if_neg (Value.isNull_iff.not.2 harg), if_neg hkey]
  rfl

/-- So a specific type may become nullable: the arguments keep their scores, up to the assignable
one. -/
theorem score?_nullable_of_isSpecific (h : type.isSpecific) (harg : arg ≠ .null) :
    (nullable type).score? arg = (type.score? arg).map (min Score.assignable) := by
  rw [score?_nullable harg, score?_of_isSpecific h harg]
  split
  · rfl
  · split
    · rfl
    · rfl

/-- Any other type loses all of them. -/
theorem score?_nullable_of_not_isSpecific (h : type.isSpecific = false) (harg : arg ≠ .null) :
    (nullable type).score? arg = none := by
  rw [score?_nullable harg, if_neg (typeKey?_ne_of_not_isSpecific h),
    acceptsByWidening_of_not_isSpecific h, if_neg Bool.false_ne_true]

/-- Null converts to itself or not at all. -/
theorem eq_null_of_coerce_null {v : Value} (h : type.coerce .null = .ok v) : v = .null := by
  have hnullable : type.isNullable := exists_coerce_null_iff.1 ⟨v, h⟩
  cases type with
  | any => exact (Except.ok.inj h).symm
  | nullable underlying => exact (Except.ok.inj h).symm
  | _ => cases hnullable

end TypeRef

namespace ParamInfo

variable {p : ParamInfo} {arg : Value}

theorem score?_of_out (hmode : p.mode = .out) : p.score? arg = some Score.output := by
  rw [score?, hmode]

theorem score?_of_ne_out (hmode : p.mode ≠ .out) : p.score? arg = p.type.score? arg := by
  rw [score?]
  cases h : p.mode with
  | out => exact absurd h hmode
  | value => rfl
  | ref => rfl

/-- The parameter with one more layer of null. -/
def nullable (p : ParamInfo) : ParamInfo :=
  { p with type := .nullable p.type }

/-- What one more layer of null does to a parameter. -/
structure NullableKeeps (p : ParamInfo) : Prop where
  /-- What converts to the type still converts, to the same value. -/
  converts : ∀ arg v, p.type.coerce arg = .ok v → p.nullable.type.coerce arg = .ok v
  /-- An argument that is not null and has a score keeps it, up to the assignable one, if it is not
  read or the type is specific; -/
  keeps : ∀ arg n, arg ≠ .null → p.score? arg = some n → p.mode = .out ∨ p.type.isSpecific →
    p.nullable.score? arg = some (min Score.assignable n)
  /-- and otherwise it has none any more. -/
  loses : ∀ arg, arg ≠ .null → ¬(p.mode = .out ∨ p.type.isSpecific) → p.nullable.score? arg = none

/-- A specific parameter may become nullable, and so may one that is only written. -/
theorem nullableKeeps (p : ParamInfo) : p.NullableKeeps := by
  refine ⟨?_, ?_, ?_⟩
  · intro arg v hv
    by_cases harg : arg = .null
    · subst harg
      rw [TypeRef.eq_null_of_coerce_null hv]
      rfl
    · exact (TypeRef.coerce_nullable p.type harg).trans hv
  · intro arg n harg hn hkept
    by_cases hmode : p.mode = .out
    · rw [score?_of_out hmode, Option.some.injEq] at hn
      rw [← hn]
      exact score?_of_out hmode
    · have hspecific : p.type.isSpecific := hkept.resolve_left hmode
      have hscore : p.nullable.score? arg = (TypeRef.nullable p.type).score? arg :=
        score?_of_ne_out hmode
      rw [score?_of_ne_out hmode] at hn
      rw [hscore, TypeRef.score?_nullable_of_isSpecific hspecific harg, hn, Option.map_some]
  · intro arg harg hlost
    obtain ⟨hmode, hspecific⟩ := not_or.1 hlost
    have hscore : p.nullable.score? arg = (TypeRef.nullable p.type).score? arg :=
      score?_of_ne_out hmode
    rw [hscore, TypeRef.score?_nullable_of_not_isSpecific (Bool.eq_false_iff.2 hspecific) harg]

/-- A parameter of any value, one of any reference and one that is nullable already take an argument
that they refuse after one more layer of null. -/
theorem nullable_refuses :
    let one : Value := .int ⟨.i32, 1, by decide⟩
    let echo : Value := .object ⟨.numbered 0, .named "Echo", ⟨"Echo"⟩⟩
    let anything : ParamInfo := ⟨"p", .any, .value⟩
    let reference : ParamInfo := ⟨"p", .anyObject, .value⟩
    let optional : ParamInfo := ⟨"p", .nullable (.number (.int .i32)), .value⟩
    (anything.score? one = some Score.assignable ∧ anything.nullable.score? one = none) ∧
      (reference.score? echo = some Score.assignable ∧ reference.nullable.score? echo = none) ∧
      (optional.score? one = some Score.assignable ∧ optional.nullable.score? one = none) := by
  decide

end ParamInfo

end Reflection
