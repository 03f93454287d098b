import Mathlib.Data.List.Forall2
import Reflection.Access.Invoker

/-!
# Calls and their arguments

A call either stops before its body runs (`Invoker.invoke_of_start_error`) or is settled by what
the body leaves behind (`Invoker.invoke_of_start`). Slots are filled and handed back one by one
(`Frame.slot_of_prepareSlots`, `Frame.getElem?_merge`).

Main statement: `Invoker.invoke_atomic`. A call that fails leaves the arguments alone, whatever
its body did to the frame, and a call that succeeds changes exactly the arguments that its
parameters write back.
-/

set_option autoImplicit false

namespace Reflection

namespace TypeRef

theorem convert_eq_ok_iff {type : TypeRef} {v w : Value} :
    type.convert v = .ok w ↔ type.coerce v = .ok w := by
  rw [convert]
  cases type.coerce v <;> simp [Except.mapError]

end TypeRef

namespace Frame

theorem prepareSlot_of_out {p : ParamInfo} (h : p.mode = .out) (arg : Value) :
    prepareSlot p arg = .ok .null := by
  simp [prepareSlot, h]

theorem prepareSlot_of_ne_out {p : ParamInfo} (h : p.mode ≠ .out) (arg : Value) :
    prepareSlot p arg = p.type.convert arg := by
  rw [prepareSlot]
  split
  · contradiction
  · rfl

/-- Slots are prepared exactly when each argument has a slot for its parameter. -/
theorem prepareSlots_cons_eq_ok_iff {p : ParamInfo} {ps : List ParamInfo} {arg : Value}
    {args slots : List Value} :
    prepareSlots (p :: ps) (arg :: args) = .ok slots ↔
      ∃ slot rest, prepareSlot p arg = .ok slot ∧ prepareSlots ps args = .ok rest ∧
        slots = slot :: rest := by
  rw [prepareSlots]
  cases hslot : prepareSlot p arg with
  | error e => simp [bind, Except.bind]
  | ok slot =>
    cases hrest : prepareSlots ps args with
    | error e => simp [bind, Except.bind]
    | ok rest => simp [bind, Except.bind, eq_comm]

theorem exists_prepareSlots {ps : List ParamInfo} {args : List Value}
    (h : List.Forall₂ (fun p arg => ∃ slot, prepareSlot p arg = .ok slot) ps args) :
    ∃ slots, prepareSlots ps args = .ok slots := by
  induction h with
  | nil => exact ⟨[], rfl⟩
  | cons hslot _ ih =>
    obtain ⟨slot, hslot⟩ := hslot
    obtain ⟨rest, hrest⟩ := ih
    exact ⟨slot :: rest, prepareSlots_cons_eq_ok_iff.2 ⟨slot, rest, hslot, hrest, rfl⟩⟩

/-- The slot of each parameter is prepared from the argument at its position. -/
theorem slot_of_prepareSlots {ps : List ParamInfo} {args slots : List Value}
    (h : prepareSlots ps args = .ok slots) (aligned : args.length = ps.length) {k : Nat}
    {p : ParamInfo} (hp : ps[k]? = some p) :
    ∃ arg slot, args[k]? = some arg ∧ slots[k]? = some slot ∧ prepareSlot p arg = .ok slot := by
  induction ps generalizing args slots k with
  | nil => simp at hp
  | cons q ps ih =>
    cases args with
    | nil => simp at aligned
    | cons arg args =>
      obtain ⟨slot, rest, hslot, hrest, rfl⟩ := prepareSlots_cons_eq_ok_iff.1 h
      cases k with
      | zero =>
        rw [List.getElem?_cons_zero, Option.some.injEq] at hp
        subst hp
        exact ⟨arg, slot, rfl, rfl, hslot⟩
      | succ k => exact ih hrest (Nat.succ.inj aligned) hp

theorem prepare_eq_ok_iff {params : List ParamInfo} {args : List Value}
    {h : args.length = params.length} {frame : Frame params} :
    prepare params args h = .ok frame ↔ prepareSlots params args = .ok frame.slots := by
  obtain ⟨slots, aligned⟩ := frame
  unfold prepare
  split
  · rename_i ready hready
    simp [hready]
  · rename_i e herror
    simp [herror]

theorem prepare_eq_error_iff {params : List ParamInfo} {args : List Value}
    {h : args.length = params.length} {e : AccessError} :
    prepare params args h = .error e ↔ prepareSlots params args = .error e := by
  unfold prepare
  split
  · rename_i ready hready
    simp [hready]
  · rename_i cause hcause
    simp [hcause]

/-- The argument of a parameter after a call: the slot if the parameter writes back, and else the
argument that was there. -/
theorem getElem?_merge {ps : List ParamInfo} {slots args : List Value}
    (hslots : slots.length = ps.length) (hargs : args.length = ps.length) {k : Nat}
    {p : ParamInfo} (hp : ps[k]? = some p) :
    (merge ps slots args)[k]? = if p.mode.writesBack then slots[k]? else args[k]? := by
  induction ps generalizing slots args k with
  | nil => simp at hp
  | cons q ps ih =>
    cases slots with
    | nil => simp at hslots
    | cons slot slots =>
      cases args with
      | nil => simp at hargs
      | cons arg args =>
        rw [merge]
        cases k with
        | zero =>
          rw [List.getElem?_cons_zero, Option.some.injEq] at hp
          subst hp
          simp only [List.getElem?_cons_zero]
          split <;> rfl
        | succ k => exact ih (Nat.succ.inj hslots) (Nat.succ.inj hargs) hp

theorem prepareSlot_of_key_eq {p q : ParamInfo} (h : p.key = q.key) (arg : Value) :
    prepareSlot p arg = prepareSlot q arg := by
  have htype : p.type = q.type := TypeRef.key_injective (congrArg ParamKey.type h)
  have hmode : p.mode = q.mode := congrArg ParamKey.mode h
  rw [prepareSlot, prepareSlot, htype, hmode]

/-- Slots are prepared by the types and the modes of the parameters alone. -/
theorem prepareSlots_of_key_eq {params others : List ParamInfo}
    (h : params.map ParamInfo.key = others.map ParamInfo.key) (args : List Value) :
    prepareSlots params args = prepareSlots others args := by
  induction params generalizing others args with
  | nil => rw [List.map_eq_nil_iff.1 h.symm]
  | cons p params ih =>
    cases others with
    | nil => cases h
    | cons q others =>
      obtain ⟨hkey, hrest⟩ := List.cons.inj h
      cases args with
      | nil => rfl
      | cons arg args => rw [prepareSlots, prepareSlots, prepareSlot_of_key_eq hkey, ih hrest]

/-- Slots are handed back by the modes of the parameters alone. -/
theorem merge_of_key_eq {params others : List ParamInfo}
    (h : params.map ParamInfo.key = others.map ParamInfo.key) (slots args : List Value) :
    merge params slots args = merge others slots args := by
  induction params generalizing others slots args with
  | nil => rw [List.map_eq_nil_iff.1 h.symm]
  | cons p params ih =>
    cases others with
    | nil => cases h
    | cons q others =>
      obtain ⟨hkey, hrest⟩ := List.cons.inj h
      have hmode : p.mode = q.mode := congrArg ParamKey.mode hkey
      cases slots with
      | nil => rfl
      | cons slot slots =>
        cases args with
        | nil => rfl
        | cons arg args => rw [merge, merge, hmode, ih hrest]

theorem value_eq_ok_iff {params : List ParamInfo} {frame : Frame params} {k : Nat} {v : Value} :
    frame.value k = .ok v ↔ frame.slots[k]? = some v := by
  rw [value]
  cases frame.slots[k]? <;> simp

/-- A frame has a slot for every parameter. -/
theorem exists_value {params : List ParamInfo} (frame : Frame params) {k : Nat} {p : ParamInfo}
    (hp : params[k]? = some p) : ∃ v, frame.value k = .ok v := by
  have hk : k < frame.slots.length := by
    rw [frame.aligned]
    exact (List.getElem?_eq_some_iff.1 hp).1
  exact ⟨frame.slots[k], value_eq_ok_iff.2 (List.getElem?_eq_getElem hk)⟩

end Frame

/-- The end of a call whose body has run: a body that fails loses its frame, and the frame of one
that succeeds is handed back. -/
def Outcome.settle {params : List ParamInfo} (out : Outcome params) (args : List Value) :
    Invocation :=
  match out.result with
  | .error e => ⟨.error e, args, out.store⟩
  | .ok returned => ⟨.ok returned, out.frame.writeBack args, out.store⟩

namespace Outcome

variable {params : List ParamInfo}

theorem settle_of_error {out : Outcome params} {e : AccessError} (h : out.result = .error e)
    (args : List Value) : out.settle args = ⟨.error e, args, out.store⟩ := by
  simp [settle, h]

theorem settle_of_ok {out : Outcome params} {returned : Option Value}
    (h : out.result = .ok returned) (args : List Value) :
    out.settle args = ⟨.ok returned, out.frame.writeBack args, out.store⟩ := by
  simp [settle, h]

end Outcome

/-- What a successful call makes of one argument: `arg` is the argument before the call and `new`
the one after it, `first` and `last` are in its slot before and after the body. -/
def ParamInfo.Passes (p : ParamInfo) (arg first last new : Value) : Prop :=
  match p.mode with
  | .value => p.type.coerce arg = .ok first ∧ new = arg
  | .ref => p.type.coerce arg = .ok first ∧ new = last
  | .out => first = .null ∧ new = last

namespace ParamInfo

/-- The slot that was prepared and the argument that is merged make a parameter's passage. -/
theorem passes_of_prepareSlot {p : ParamInfo} {arg first : Value} (last : Value)
    (h : Frame.prepareSlot p arg = .ok first) :
    p.Passes arg first last (if p.mode.writesBack then last else arg) := by
  rw [Passes]
  cases hmode : p.mode with
  | value =>
    rw [Frame.prepareSlot_of_ne_out (by simp [hmode]), TypeRef.convert_eq_ok_iff] at h
    exact ⟨h, rfl⟩
  | ref =>
    rw [Frame.prepareSlot_of_ne_out (by simp [hmode]), TypeRef.convert_eq_ok_iff] at h
    exact ⟨h, rfl⟩
  | out =>
    rw [Frame.prepareSlot_of_out hmode, Except.ok.injEq] at h
    exact ⟨h.symm, rfl⟩

end ParamInfo

/-- Between the frame that a body got and any frame that it may leave, every argument passes as
its parameter says. -/
theorem Frame.passes_writeBack {params : List ParamInfo} {args : List Value}
    {begun : Frame params} (h : prepareSlots params args = .ok begun.slots)
    (aligned : args.length = params.length) (ended : Frame params) {k : Nat} {p : ParamInfo}
    (hp : params[k]? = some p) :
    ∃ arg first last new, args[k]? = some arg ∧ begun.value k = .ok first ∧
      ended.value k = .ok last ∧ (ended.writeBack args)[k]? = some new ∧
      p.Passes arg first last new := by
  obtain ⟨arg, first, harg, hfirst, hprepared⟩ := slot_of_prepareSlots h aligned hp
  obtain ⟨last, hlast⟩ := ended.exists_value hp
  have hmerge := getElem?_merge ended.aligned aligned hp
  rw [value_eq_ok_iff.1 hlast, harg] at hmerge
  refine ⟨arg, first, last, _, harg, value_eq_ok_iff.2 hfirst, hlast, ?_,
    ParamInfo.passes_of_prepareSlot last hprepared⟩
  rw [writeBack, hmerge]
  split <;> rfl

namespace Invoker

/-- A call reaches its body when the number of arguments is right, the target binds, the
arguments convert and the body takes the bound target. -/
theorem start_eq_ok_iff {i : Invoker} {target : Option Target} {args : List Value}
    {body : MethodBody} {frame : Frame i.descriptor.params} :
    i.start target args = .ok (body, frame) ↔
      args.length = i.descriptor.params.length ∧
        Frame.prepareSlots i.descriptor.params args = .ok frame.slots ∧
        ∃ part, i.binding.bind .write target = .ok part ∧
          i.method.body.at? i.method.declaring part = some body := by
  rw [start]
  split
  · rename_i hlength
    cases hpart : i.binding.bind .write target with
    | error e => simp [bind, Except.bind]
    | ok part =>
      cases hframe : Frame.prepare i.descriptor.params args hlength with
      | error e =>
        have hslots : Frame.prepareSlots i.descriptor.params args ≠ .ok frame.slots := by
          intro hok
          rw [Frame.prepare_eq_ok_iff.2 hok] at hframe
          cases hframe
        simp [bind, Except.bind, hslots]
      | ok ready =>
        have hready := Frame.prepare_eq_ok_iff.1 hframe
        -- Besides its slots a frame holds only a proof.
        have heq : ready = frame ↔ ready.slots = frame.slots := by
          cases ready
          cases frame
          simp
        cases hbody : i.method.body.at? i.method.declaring part with
        | none => simp [bind, Except.bind, hbody]
        | some found =>
          simp [bind, Except.bind, hbody, hready, hlength, heq, and_comm]
  · rename_i hlength
    simp [hlength]

theorem invoke_of_start_error {i : Invoker} {target : Option Target} {args : List Value}
    {e : AccessError} (h : i.start target args = .error e) (store : Store) :
    i.invoke target args store = ⟨.error e, args, store⟩ := by
  simp [invoke, h]

theorem invoke_of_start {i : Invoker} {target : Option Target} {args : List Value}
    {body : MethodBody} {frame : Frame i.descriptor.params}
    (h : i.start target args = .ok (body, frame)) (store : Store) :
    i.invoke target args store = (body.run i.descriptor.params frame store).settle args := by
  rw [invoke, h]
  rfl

/-- The target is bound before the arguments are converted. -/
theorem start_of_bind_error {i : Invoker} {target : Option Target} {args : List Value}
    (h : args.length = i.descriptor.params.length) {e : AccessError}
    (he : i.binding.bind .write target = .error e) : i.start target args = .error e := by
  rw [start, dif_pos h, he]
  rfl

/-- With the target bound and the body found, only the arguments can stop a call. -/
theorem start_of_bind {i : Invoker} {target part : Option Target} {args : List Value}
    (h : args.length = i.descriptor.params.length) {body : MethodBody}
    (hbind : i.binding.bind .write target = .ok part)
    (hbody : i.method.body.at? i.method.declaring part = some body) :
    i.start target args =
      (Frame.prepare i.descriptor.params args h).map fun frame => (body, frame) := by
  rw [start, dif_pos h, hbind]
  cases Frame.prepare i.descriptor.params args h <;> simp [bind, Except.bind, Except.map, hbody]

theorem invoke_eq (i : Invoker) (target : Option Target) (args : List Value) (store : Store) :
    i.invoke target args store =
      match i.start target args with
      | .error e => ⟨.error e, args, store⟩
      | .ok (body, frame) => (body.run i.descriptor.params frame store).settle args := by
  cases hstart : i.start target args with
  | error e => exact invoke_of_start_error hstart store
  | ok started => exact invoke_of_start hstart store

/-- A call is atomic on its arguments. Its body runs if and only if the number of arguments is
right, the target binds, the arguments convert and the body takes the bound target, and then the
call is settled by what the body leaves. If the call fails, before its body or in it, the arguments
are what they were, and the state too if the body was not reached. If it succeeds, every argument
passes as its parameter says, between the frame that the body got and the frame that it left. -/
theorem invoke_atomic (i : Invoker) (target : Option Target) (args : List Value)
    (store : Store) :
    let params := i.descriptor.params
    let after := i.invoke target args store
    (∀ body frame, i.start target args = .ok (body, frame) ↔ args.length = params.length ∧
        Frame.prepareSlots params args = .ok frame.slots ∧
        ∃ part, i.binding.bind .write target = .ok part ∧
          i.method.body.at? i.method.declaring part = some body) ∧
      (∀ body frame, i.start target args = .ok (body, frame) →
        after = (body.run params frame store).settle args) ∧
      (∀ e, after.result = .error e → after.args = args) ∧
      (∀ e, i.start target args = .error e → after = ⟨.error e, args, store⟩) ∧
      ∀ returned, after.result = .ok returned →
        ∃ body frame, i.start target args = .ok (body, frame) ∧
          let out := body.run params frame store
          out.result = .ok returned ∧ after.store = out.store ∧
            after.args.length = args.length ∧ args.length = params.length ∧
            ∀ k p, params[k]? = some p →
              ∃ arg first last new, args[k]? = some arg ∧ frame.value k = .ok first ∧
                out.frame.value k = .ok last ∧ after.args[k]? = some new ∧
                p.Passes arg first last new := by
  intro params after
  refine ⟨fun _ _ => start_eq_ok_iff, fun _ _ hstart => invoke_of_start hstart store, ?_⟩
  cases hstart : i.start target args with
  | error e =>
    have hafter : after = ⟨.error e, args, store⟩ := invoke_of_start_error hstart store
    refine ⟨fun _ _ => by rw [hafter], ?_, ?_⟩
    · intro e' he
      rw [hafter, Except.error.inj he]
    · intro returned hok
      rw [hafter] at hok
      cases hok
  | ok started =>
    obtain ⟨body, frame⟩ := started
    obtain ⟨hlength, hslots, -⟩ := start_eq_ok_iff.1 hstart
    have hsettle : after = (body.run params frame store).settle args :=
      invoke_of_start hstart store
    cases hresult : (body.run params frame store).result with
    | error e =>
      have hafter := hsettle.trans (Outcome.settle_of_error hresult args)
      refine ⟨fun _ _ => by rw [hafter], fun _ he => (by cases he), ?_⟩
      intro returned hok
      rw [hafter] at hok
      cases hok
    | ok value =>
      have hafter := hsettle.trans (Outcome.settle_of_ok hresult args)
      refine ⟨?_, fun _ he => (by cases he), ?_⟩
      · intro e he
        rw [hafter] at he
        cases he
      · intro returned hok
        rw [hafter] at hok ⊢
        exact ⟨body, frame, rfl, hresult.trans hok, rfl, Frame.length_writeBack _ _, hlength,
          fun k p hp => Frame.passes_writeBack hslots hlength _ hp⟩

end Invoker

end Reflection
