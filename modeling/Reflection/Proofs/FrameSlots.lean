import Reflection.Proofs.CanonicalValues
import Reflection.Proofs.Dispatch
import Reflection.Script.Body

/-!
# Slots of running calls

A body works on its frame by actions: it reads a slot, reads it as a type, or writes it
(`Frame.Action`). One action keeps every slot a value of its declared type (`Frame.Typed.perform`),
and so does a run of them (`Frame.Typed.run`); only an output slot that was never written still
holds the null that it started with.

Main statement: `Frame.slots_keep_types`. Since what was converted converts again, the arguments
that a call writes back can be passed to the same method again.
-/

set_option autoImplicit false

namespace Reflection

namespace TypeRef

/-- The value is one that the declared type gives: some value converts to it. -/
def Represents (type : TypeRef) (v : Value) : Prop :=
  ∃ given, type.coerce given = .ok v

theorem Represents.exists_coerce {type : TypeRef} {v : Value} (h : type.Represents v) :
    ∃ w, type.coerce v = .ok w := by
  obtain ⟨given, hgiven⟩ := h
  obtain ⟨w, hw⟩ := (coerce_eq_ok_iff.1 hgiven).again
  exact ⟨w, coerce_eq_ok_iff.2 hw⟩

end TypeRef

/-- What the slot of a parameter may hold: a value of the declared type, or null in an output slot
that was not written. -/
def ParamInfo.MayHold (p : ParamInfo) (written : Prop) (v : Value) : Prop :=
  p.type.Represents v ∨ p.mode = .out ∧ v = .null ∧ ¬written

namespace ParamInfo

variable {p : ParamInfo} {written : Prop} {v : Value}

/-- What a slot that is read from an argument holds converts again. -/
theorem MayHold.exists_coerce (h : p.MayHold written v) (hmode : p.mode ≠ .out) :
    ∃ w, p.type.coerce v = .ok w := by
  rcases h with hrepresents | ⟨hout, -, -⟩
  · exact hrepresents.exists_coerce
  · exact absurd hout hmode

/-- What a slot is prepared with, it may hold. -/
theorem mayHold_of_prepareSlot {arg : Value} (h : Frame.prepareSlot p arg = .ok v)
    (hwritten : ¬written) : p.MayHold written v := by
  by_cases hmode : p.mode = .out
  · rw [Frame.prepareSlot_of_out hmode, Except.ok.injEq] at h
    exact .inr ⟨hmode, h.symm, hwritten⟩
  · rw [Frame.prepareSlot_of_ne_out hmode, TypeRef.convert_eq_ok_iff] at h
    exact .inl ⟨arg, h⟩

/-- The argument after a call is accepted by the same parameter. -/
theorem Passes.accepts {arg first last new : Value} (h : p.Passes arg first last new)
    (hlast : p.MayHold written last) : p.Accepts new := by
  rw [Passes] at h
  cases hmode : p.mode with
  | value =>
    rw [hmode] at h
    obtain ⟨hfirst, rfl⟩ := h
    exact .inr ⟨first, hfirst⟩
  | ref =>
    rw [hmode] at h
    obtain ⟨-, rfl⟩ := h
    exact .inr (hlast.exists_coerce (by simp [hmode]))
  | out => exact .inl hmode

end ParamInfo

namespace Frame

variable {params : List ParamInfo}

/-! ## Actions -/

/-- What a body does with its frame. A typed value is written as the value that it stands for. -/
inductive Action where
  /-- Reads a slot as it is. -/
  | value (index : Nat)
  /-- Reads a slot, converted to a type. -/
  | get (type : TypeRef) (index : Nat)
  /-- Writes a slot. -/
  | set (index : Nat) (v : Value)

/-- The answer to an action, and the frame after it. -/
def perform (frame : Frame params) : Action → Except AccessError (Option Value) × Frame params
  | .value index => ((frame.value index).map some, frame)
  | .get type index => ((frame.get type index).map some, frame)
  | .set index v =>
    match frame.set index v with
    | .error e => (.error e, frame)
    | .ok next => (.ok none, next)

/-- The frame after a sequence of actions. -/
def run (frame : Frame params) : List Action → Frame params
  | [] => frame
  | action :: rest => (frame.perform action).2.run rest

/-- One of the actions writes the slot. -/
inductive Writes (index : Nat) : Frame params → List Action → Prop
  | now {frame next : Frame params} {v : Value} (h : frame.set index v = .ok next)
      (rest : List Action) : Writes index frame (.set index v :: rest)
  | later {frame : Frame params} {action : Action} {rest : List Action}
      (h : Writes index (frame.perform action).2 rest) : Writes index frame (action :: rest)

/-- A write that succeeds leaves the frame that it gives, and any other action changes nothing. -/
theorem perform_cases (frame : Frame params) (action : Action) :
    (∃ index v next, action = .set index v ∧ frame.set index v = .ok next ∧
      frame.perform action = (.ok none, next)) ∨
    (frame.perform action).2 = frame ∧
      ∀ index v next, action = .set index v → frame.set index v ≠ .ok next := by
  cases action with
  | value index => exact .inr ⟨rfl, fun _ _ _ h => nomatch h⟩
  | get type index => exact .inr ⟨rfl, fun _ _ _ h => nomatch h⟩
  | set index v =>
    cases hset : frame.set index v with
    | error e =>
      refine .inr ⟨by rw [perform, hset], ?_⟩
      rintro k w next heq hok
      obtain ⟨rfl, rfl⟩ := Action.set.inj heq
      rw [hset] at hok
      cases hok
    | ok next => exact .inl ⟨index, v, next, rfl, hset, by rw [perform, hset]⟩

/-- An action that fails leaves the frame as it is. -/
theorem perform_of_error {frame : Frame params} {action : Action} {e : AccessError}
    (h : (frame.perform action).1 = .error e) : (frame.perform action).2 = frame := by
  rcases frame.perform_cases action with ⟨index, v, next, -, -, hperform⟩ | ⟨hsame, -⟩
  · rw [hperform] at h
    cases h
  · exact hsame

/-- Writing a slot replaces it by the converted value. -/
theorem slots_of_set {frame next : Frame params} {index : Nat} {v : Value}
    (h : frame.set index v = .ok next) :
    ∃ p w, params[index]? = some p ∧ p.type.coerce v = .ok w ∧
      next.slots = frame.slots.set index w := by
  rw [set] at h
  split at h
  · cases h
  · rename_i p hp
    split at h
    · cases h
    · rename_i w hw
      obtain rfl := Except.ok.inj h
      exact ⟨p, w, hp, TypeRef.convert_eq_ok_iff.1 hw, rfl⟩

theorem value_of_set_self {frame next : Frame params} {index : Nat} {v : Value}
    (h : frame.set index v = .ok next) :
    ∃ p w, params[index]? = some p ∧ p.type.coerce v = .ok w ∧ next.value index = .ok w := by
  obtain ⟨p, w, hp, hw, hslots⟩ := slots_of_set h
  have hindex : index < frame.slots.length := by
    rw [frame.aligned]
    exact (List.getElem?_eq_some_iff.1 hp).1
  refine ⟨p, w, hp, hw, value_eq_ok_iff.2 ?_⟩
  rw [hslots, List.getElem?_set_self hindex]

theorem value_of_set_of_ne {frame next : Frame params} {index : Nat} {v : Value}
    (h : frame.set index v = .ok next) {k : Nat} (hk : k ≠ index) {w : Value} :
    next.value k = .ok w ↔ frame.value k = .ok w := by
  obtain ⟨p, new, -, -, hslots⟩ := slots_of_set h
  rw [value_eq_ok_iff, value_eq_ok_iff, hslots, List.getElem?_set_ne hk.symm]

/-! ## Slots of declared types -/

/-- Every slot holds what its parameter allows, where `written` says which slots were written. -/
def Typed (written : Nat → Prop) (frame : Frame params) : Prop :=
  ∀ k p, params[k]? = some p → ∃ v, frame.value k = .ok v ∧ p.MayHold (written k) v

theorem Typed.imp {written written' : Nat → Prop} {frame : Frame params} (h : frame.Typed written)
    (himp : ∀ k, written' k → written k) : frame.Typed written' := by
  intro k p hp
  obtain ⟨v, hv, hhold⟩ := h k p hp
  refine ⟨v, hv, hhold.imp_right ?_⟩
  rintro ⟨hmode, hnull, hnot⟩
  exact ⟨hmode, hnull, fun hwritten => hnot (himp k hwritten)⟩

/-- A frame starts with slots of the declared types. -/
theorem typed_of_prepareSlots {args : List Value} {begun : Frame params}
    (h : prepareSlots params args = .ok begun.slots) (aligned : args.length = params.length) :
    begun.Typed fun _ => False := by
  intro k p hp
  obtain ⟨arg, slot, -, hslot, hprepared⟩ := slot_of_prepareSlots h aligned hp
  exact ⟨slot, value_eq_ok_iff.2 hslot, ParamInfo.mayHold_of_prepareSlot hprepared id⟩

/-- One action keeps the slots of their declared types. -/
theorem Typed.perform {written : Nat → Prop} {frame : Frame params} (h : frame.Typed written)
    (action : Action) :
    (frame.perform action).2.Typed fun k =>
      written k ∨ ∃ v next, action = .set k v ∧ frame.set k v = .ok next := by
  rcases frame.perform_cases action with ⟨index, v, next, rfl, hset, hperform⟩ | ⟨hsame, hnone⟩
  · rw [hperform]
    intro k p hp
    by_cases hk : k = index
    · subst hk
      obtain ⟨q, w, hq, hw, hvalue⟩ := value_of_set_self hset
      obtain rfl := Option.some.inj (hp.symm.trans hq)
      exact ⟨w, hvalue, .inl ⟨v, hw⟩⟩
    · -- Another slot is as it was, and this action does not write it.
      obtain ⟨w, hvalue, hhold⟩ := h k p hp
      refine ⟨w, (value_of_set_of_ne hset hk).2 hvalue, hhold.imp_right ?_⟩
      rintro ⟨hmode, hnull, hnot⟩
      refine ⟨hmode, hnull, ?_⟩
      rintro (hwritten | ⟨_, _, heq, -⟩)
      · exact hnot hwritten
      · exact hk (Action.set.inj heq).1.symm
  · rw [hsame]
    refine h.imp ?_
    rintro k (hk | ⟨v, next, heq, hok⟩)
    · exact hk
    · exact absurd hok (hnone k v next heq)

/-- A run keeps the slots of their declared types, and null stays only where nothing was written. -/
theorem Typed.run {written : Nat → Prop} {frame : Frame params} (h : frame.Typed written)
    (actions : List Action) :
    (frame.run actions).Typed fun k => written k ∨ Writes k frame actions := by
  -- The first action enlarges `written`, so the rest starts from another set of written slots.
  induction actions generalizing frame written with
  | nil =>
    refine h.imp ?_
    rintro k (hk | hwrites)
    · exact hk
    · cases hwrites
  | cons action rest ih =>
    refine (ih (h.perform action)).imp fun k hk => ?_
    rcases hk with hk | hwrites
    · exact .inl (.inl hk)
    · cases hwrites with
      | now hset => exact .inl (.inr ⟨_, _, rfl, hset⟩)
      | later hlater => exact .inr hlater

section

variable {written : Nat → Prop} {args : List Value} {begun ended : Frame params}

/-- Each argument after a call is accepted by the same parameter. -/
theorem Typed.exists_accepts (h : ended.Typed written)
    (hbegun : prepareSlots params args = .ok begun.slots) (aligned : args.length = params.length)
    {k : Nat} {p : ParamInfo} (hp : params[k]? = some p) :
    ∃ new, (ended.writeBack args)[k]? = some new ∧ p.Accepts new := by
  obtain ⟨arg, first, last, new, -, -, hlast, hnew, hpasses⟩ :=
    passes_writeBack hbegun aligned ended hp
  obtain ⟨v, hv, hhold⟩ := h k p hp
  obtain rfl := Except.ok.inj (hlast.symm.trans hv)
  exact ⟨new, hnew, hpasses.accepts hhold⟩

/-- So all of them together have a frame again. -/
theorem Typed.exists_prepareSlots_writeBack (h : ended.Typed written)
    (hbegun : prepareSlots params args = .ok begun.slots)
    (aligned : args.length = params.length) :
    ∃ slots, prepareSlots params (ended.writeBack args) = .ok slots := by
  have hlength : params.length = (ended.writeBack args).length := by
    rw [length_writeBack, aligned]
  refine exists_prepareSlots (List.forall₂_iff_get.2 ⟨hlength, fun k hk hk' => ?_⟩)
  obtain ⟨new, hnew, haccepts⟩ := h.exists_accepts hbegun aligned (List.getElem?_eq_getElem hk)
  rw [List.getElem?_eq_getElem hk', Option.some.injEq] at hnew
  subst hnew
  exact haccepts.exists_slot

end

end Frame

/-! ## Bodies -/

/-- The body changes its frame by actions only. -/
def MethodBody.ActsOnFrame (body : MethodBody) : Prop :=
  ∀ (params : List ParamInfo) (frame : Frame params) (store : Store),
    ∃ actions, (body.run params frame store).frame = frame.run actions

namespace Script

theorem exists_frame_run {params : List ParamInfo} (owner : Address) (script : List Stmt)
    (frame : Frame params) (store : Store) :
    ∃ actions, (run owner script frame store).frame = frame.run actions := by
  induction script generalizing frame store with
  | nil => exact ⟨[], rfl⟩
  | cons stmt rest ih =>
    -- A script stops at the first fault, with the frame that it had then.
    cases stmt with
    | ret e => exact ⟨[], rfl⟩
    | fail member => exact ⟨[], rfl⟩
    | set index type e =>
      rw [run]
      cases hv : e.eval owner frame store with
      | error fault => exact ⟨[], rfl⟩
      | ok v =>
        cases hw : convertTo type v with
        | error fault => exact ⟨[], by simp [hw, bind, Except.bind, Frame.run]⟩
        | ok w =>
          cases hset : frame.set index w with
          | error fault => exact ⟨[], by simp [hw, hset, bind, Except.bind, Frame.run]⟩
          | ok next =>
            obtain ⟨actions, hactions⟩ := ih next store
            refine ⟨.set index w :: actions, ?_⟩
            simpa [hw, hset, bind, Except.bind, Frame.run, Frame.perform] using hactions
    | store cell type e =>
      rw [run]
      split
      · exact ⟨[], rfl⟩
      · exact ih frame _

/-- Scripts change their frame by actions only. -/
theorem actsOnFrame_body (script : List Stmt) (returnType : Option TypeRef) (owner : Address) :
    (body script returnType owner).ActsOnFrame :=
  fun _ frame store => exists_frame_run owner script frame store

end Script

namespace Frame

variable {params : List ParamInfo}

/-- What a run of actions leaves of a frame that was prepared for arguments. -/
structure KeepsTypes (args : List Value) (begun : Frame params) (actions : List Action) :
    Prop where
  /-- There is one slot for every parameter. -/
  size : (begun.run actions).size = params.length
  /-- Each slot holds a value of the declared type, or null if it is an output slot that no action
  wrote. -/
  typed : ∀ (k : Nat) (p : ParamInfo), params[k]? = some p →
    ∃ v, (begun.run actions).value k = .ok v ∧ (p.type.Represents v ∨
      p.mode = .out ∧ v = .null ∧ ¬Writes k begun actions)
  /-- A further action that fails leaves the frame as it is. -/
  refused : ∀ action e, ((begun.run actions).perform action).1 = .error e →
    ((begun.run actions).perform action).2 = begun.run actions
  /-- A slot that is read from an argument can be read as its declared type. -/
  reread : ∀ (k : Nat) (p : ParamInfo), params[k]? = some p → p.mode ≠ .out →
    ∃ v, (begun.run actions).get p.type k = .ok v
  /-- An argument that is read and written back can be passed for its parameter again, -/
  passable : ∀ (k : Nat) (p : ParamInfo), params[k]? = some p → p.mode = .ref →
    ∃ new, ((begun.run actions).writeBack args)[k]? = some new ∧ ∃ v, p.type.coerce new = .ok v
  /-- and all arguments after the call can be passed together. -/
  prepared : ∃ h again, prepare params ((begun.run actions).writeBack args) h = .ok again

theorem keepsTypes_of_prepare {args : List Value} {aligned : args.length = params.length}
    {begun : Frame params} (h : prepare params args aligned = .ok begun) (actions : List Action) :
    begun.KeepsTypes args actions := by
  have hslots := prepare_eq_ok_iff.1 h
  have htyped : (begun.run actions).Typed fun k => Writes k begun actions :=
    ((typed_of_prepareSlots hslots aligned).run actions).imp fun _ => .inr
  refine ⟨(begun.run actions).size_eq, htyped, fun _ _ => perform_of_error, ?_, ?_, ?_⟩
  · intro k p hp hmode
    obtain ⟨v, hv, hhold⟩ := htyped k p hp
    obtain ⟨w, hw⟩ := hhold.exists_coerce hmode
    refine ⟨w, ?_⟩
    rw [get, hv]
    exact TypeRef.convert_eq_ok_iff.2 hw
  · intro k p hp hmode
    obtain ⟨new, hnew, haccepts⟩ := htyped.exists_accepts hslots aligned hp
    refine ⟨new, hnew, haccepts.resolve_left ?_⟩
    simp [hmode]
  · obtain ⟨slots, hagain⟩ := htyped.exists_prepareSlots_writeBack hslots aligned
    have hlength : ((begun.run actions).writeBack args).length = params.length := by
      rw [length_writeBack, aligned]
    exact ⟨hlength, ⟨slots, length_prepareSlots hagain hlength⟩, prepare_eq_ok_iff.2 hagain⟩

end Frame

/-- After a call that succeeded, the arguments that it left reach the same body again. -/
theorem Invoker.exists_start_again {i : Invoker} {target : Option Target} {args : List Value}
    {body : MethodBody} {begun : Frame i.descriptor.params}
    (hstart : i.start target args = .ok (body, begun)) (hacts : body.ActsOnFrame) {store : Store}
    {returned : Option Value} (hok : (i.invoke target args store).result = .ok returned) :
    ∃ again, i.start target (i.invoke target args store).args = .ok (body, again) := by
  obtain ⟨hlength, hslots, part, hpart, hbody⟩ := start_eq_ok_iff.1 hstart
  obtain ⟨actions, hactions⟩ := hacts i.descriptor.params begun store
  rw [invoke_of_start hstart store] at hok ⊢
  cases hresult : (body.run i.descriptor.params begun store).result with
  | error e =>
    rw [Outcome.settle_of_error hresult] at hok
    cases hok
  | ok value =>
    -- The target is the same as before, so only the arguments have to be prepared again.
    rw [Outcome.settle_of_ok hresult, hactions]
    have htyped := (Frame.typed_of_prepareSlots hslots hlength).run actions
    obtain ⟨slots, hagain⟩ := htyped.exists_prepareSlots_writeBack hslots hlength
    have hleft : ((begun.run actions).writeBack args).length = i.descriptor.params.length := by
      rw [Frame.length_writeBack, hlength]
    exact ⟨⟨slots, Frame.length_prepareSlots hagain hleft⟩,
      start_eq_ok_iff.2 ⟨hleft, hagain, part, hpart, hbody⟩⟩

namespace Tally

/-- A running total, a label that may be missing, and the number of entries as a result. -/
def params : List ParamInfo :=
  [⟨"total", .number (.int .i64), .ref⟩, ⟨"label", .nullable .string, .ref⟩,
    ⟨"entries", .number (.int .i32), .out⟩]

def args : List Value :=
  [.int ⟨.i8, 3, by decide⟩, .string "first", .string "placeholder"]

/-- The frame of a call with these arguments. -/
def begun : Frame params :=
  ⟨[.int ⟨.i64, 3, by decide⟩, .string "first", .null], rfl⟩

/-- Writes that fail, between two that do not, and none to the last slot that succeeds. -/
def actions : List Frame.Action :=
  [.set 2 (.string "many"), .set 0 (.int ⟨.u16, 40000, by decide⟩), .set 7 .null,
    .get .char 1, .set 1 .null, .value 2]

/-- Takes the label away and counts one entry. -/
def script : List Script.Stmt :=
  [.set 1 none (.literal .null), .set 2 none (.literal (.int ⟨.u8, 1, by decide⟩))]

def body : MethodBody :=
  Script.body script none (.statics (.named "Tally"))

def method : MethodInfo where
  name := "Add"
  visibility := .pub
  declaring := .named "Tally"
  params := params
  returnType := none
  body := .shared body

def invoker : Invoker where
  descriptor := .ofMethod (TypeInfo.ofInterface (.named "Tally")) method
  binding := .static
  method := method

end Tally

namespace Frame

/-- The slots of a frame keep their declared types. This holds after any actions on a frame that was
prepared for arguments; and after a call that succeeded, with a body that works on its frame by such
actions, the arguments that the call left can be passed to the method again. -/
theorem slots_keep_types :
    (∀ (params : List ParamInfo) (args : List Value) (aligned : args.length = params.length)
      (begun : Frame params), prepare params args aligned = .ok begun →
        ∀ actions, begun.KeepsTypes args actions) ∧
      ∀ (i : Invoker) (target : Option Target) (args : List Value) (store : Store)
        (body : MethodBody) (begun : Frame i.descriptor.params) (returned : Option Value),
        i.start target args = .ok (body, begun) → body.ActsOnFrame →
          (i.invoke target args store).result = .ok returned →
            ∃ again, i.start target (i.invoke target args store).args = .ok (body, again) :=
  ⟨fun _ _ _ _ h actions => keepsTypes_of_prepare h actions,
    fun _ _ _ _ _ _ _ hstart hacts hok => Invoker.exists_start_again hstart hacts hok⟩

open Tally

/-- Actions of which some fail, and a call that takes its label away. -/
theorem slots_keep_types_tally :
    (prepare Tally.params args rfl = .ok begun ∧ begun.KeepsTypes args actions) ∧
      invoker.start none args = .ok (body, begun) ∧ body.ActsOnFrame ∧
        (invoker.invoke none args .empty).result = .ok none ∧
          ∃ again, invoker.start none (invoker.invoke none args .empty).args =
            .ok (body, again) := by
  have hacts : body.ActsOnFrame := Script.actsOnFrame_body script none _
  refine ⟨⟨rfl, slots_keep_types.1 Tally.params args rfl begun rfl actions⟩, rfl, hacts, rfl, ?_⟩
  exact slots_keep_types.2 invoker none args .empty body begun none rfl hacts rfl

end Frame

end Reflection
