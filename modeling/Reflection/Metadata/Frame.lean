import Reflection.Access.Error
import Reflection.Metadata.Param

/-!
# Call frames

A frame holds the arguments of one call while the body runs: one slot per parameter, each with a
value of the declared type, or null in a slot that is only written and not written yet.

* `Frame.prepare` converts the arguments, `Frame.writeBack` hands the written slots back.
* `Frame.get` and `Frame.set` read and write a slot with conversion, `Frame.value` reads it as it
  is.
-/

set_option autoImplicit false

namespace Reflection

/-- The arguments of a running call: one slot per parameter. -/
structure Frame (params : List ParamInfo) where
  slots : List Value
  aligned : slots.length = params.length
  deriving DecidableEq

namespace Frame

variable {params : List ParamInfo}

/-- What the slot of a parameter holds before the body runs. -/
def prepareSlot (p : ParamInfo) (arg : Value) : Except AccessError Value :=
  match p.mode with
  | .out => .ok .null
  | _ => p.type.convert arg

/-- The slots before the body runs; the first argument that does not convert ends the call. -/
def prepareSlots : List ParamInfo → List Value → Except AccessError (List Value)
  | p :: params, arg :: args => do
    let slot ← prepareSlot p arg
    let rest ← prepareSlots params args
    .ok (slot :: rest)
  | _, _ => .ok []

theorem length_prepareSlots {ps : List ParamInfo} {args slots : List Value}
    (h : prepareSlots ps args = .ok slots) (aligned : args.length = ps.length) :
    slots.length = ps.length := by
  induction ps generalizing args slots with
  | nil =>
    cases h
    rfl
  | cons p ps ih =>
    cases args with
    | nil => simp at aligned
    | cons arg args =>
      cases hp : prepareSlot p arg with
      | error e => simp [prepareSlots, hp, bind, Except.bind] at h
      | ok slot =>
        cases hr : prepareSlots ps args with
        | error e => simp [prepareSlots, hp, hr, bind, Except.bind] at h
        | ok rest =>
          simp [prepareSlots, hp, hr, bind, Except.bind] at h
          simp [← h, ih hr (Nat.succ.inj aligned)]

/-- The frame of a call with as many arguments as parameters. -/
def prepare (params : List ParamInfo) (args : List Value) (h : args.length = params.length) :
    Except AccessError (Frame params) :=
  match hs : prepareSlots params args with
  | .ok slots => .ok ⟨slots, length_prepareSlots hs h⟩
  | .error e => .error e

/-- The arguments after the call: the slot where the mode writes back, else the argument. -/
def merge : List ParamInfo → List Value → List Value → List Value
  | p :: params, slot :: slots, arg :: args =>
    (if p.mode.writesBack then slot else arg) :: merge params slots args
  | _, _, args => args

/-- The arguments after a call that succeeded. -/
def writeBack (frame : Frame params) (args : List Value) : List Value :=
  merge params frame.slots args

/-- The number of slots. -/
def size (frame : Frame params) : Nat :=
  frame.slots.length

/-- Whether there is no slot. -/
def isEmpty (frame : Frame params) : Bool :=
  frame.slots.isEmpty

/-- There is no slot of that index. -/
def outOfRange (frame : Frame params) (index : Nat) : AccessError :=
  .arityMismatch "<frame>" frame.size (index + 1)

/-- The value in a slot. -/
def value (frame : Frame params) (index : Nat) : Except AccessError Value :=
  match frame.slots[index]? with
  | some v => .ok v
  | none => .error (frame.outOfRange index)

/-- The value in a slot, converted to a type. -/
def get (frame : Frame params) (type : TypeRef) (index : Nat) : Except AccessError Value := do
  let v ← frame.value index
  type.convert v

/-- Writes a slot, with the value converted to the type of the parameter. -/
def set (frame : Frame params) (index : Nat) (v : Value) : Except AccessError (Frame params) :=
  match params[index]? with
  | none => .error (frame.outOfRange index)
  | some p =>
    match p.type.convert v with
    | .error e => .error e
    | .ok w => .ok ⟨frame.slots.set index w, by rw [List.length_set]; exact frame.aligned⟩

theorem size_eq (frame : Frame params) : frame.size = params.length :=
  frame.aligned

theorem length_merge (ps : List ParamInfo) (slots args : List Value) :
    (merge ps slots args).length = args.length := by
  fun_induction merge ps slots args with
  | case1 p ps slot slots arg args ih => simp [ih]
  | case2 ps slots args => rfl

/-- A call changes no argument list's length. -/
theorem length_writeBack (frame : Frame params) (args : List Value) :
    (frame.writeBack args).length = args.length :=
  length_merge params frame.slots args

end Frame

end Reflection
