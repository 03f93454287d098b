import Reflection.Proofs.Descriptors
import Reflection.Proofs.DispatchMemo
import Reflection.Proofs.Invocation

/-!
# Which targets a member takes

A static member takes every target and none. A member of each instance takes exactly the targets
whose type is assignable to the declaring type, and works on the part that the base links lead to
(`TargetRule`, `Registry.HasPart`). Getters, setters and the starts of calls bind their target in
the same way, so they have one proof (`targetRule_of_scoped`); a getter follows the links for
reading, the other two for writing.

Main statement: `Registry.Gives.takesTargets`. It also says that the errors for a way that cannot
be followed, and for metadata that refuses a bound target, are never given.
-/

set_option autoImplicit false

namespace Reflection

/-- The error says that the target does not suit the member. -/
def AccessError.IsInvalidTarget : AccessError → Prop
  | .invalidTarget _ _ _ => True
  | _ => False

/-- The member was given no target. -/
def MemberDescriptor.missing (d : MemberDescriptor) : AccessError :=
  .invalidTarget d.display d.declaringName .missing

/-- How a member takes targets for a use: `run` is the access for each target, and `raw` is what the
metadata of the member does with a part. -/
structure TargetRule {α : Type} (r : Registry) (use : TargetUse) (d : MemberDescriptor)
    (raw : Option Target → Option (Except AccessError α))
    (run : Option Target → Except AccessError α) : Prop where
  /-- The target of a static member is ignored. -/
  static : d.isStatic = true → ∀ target, raw none = some (run target) ∧
    ∀ e, run target = .error e → ¬e.IsInvalidTarget
  missing : d.isStatic = false → ∀ target, run target = .error d.missing ↔ target = none
  unrelated : d.isStatic = false → ∀ target, run target = .error d.unrelated ↔
    ∃ t, target = some t ∧ r.isAssignable t.type d.declaring = false
  /-- An assignable target is never refused, and its part is what the metadata gets. -/
  part : d.isStatic = false → ∀ t, r.isAssignable t.type d.declaring = true →
    ∃ part, r.HasPart use d.declaring t part ∧ raw (some part) = some (run (some t)) ∧
      ∀ e, run (some t) = .error e → ¬e.IsInvalidTarget
  /-- The metadata takes whatever was bound. -/
  bound : ∀ target part, (TargetBinding.ofDescriptor r d).bind use target = .ok part →
    (raw part).isSome

/-- How the accessors of a member take targets. -/
structure MemberDescriptor.TakesTargets (d : MemberDescriptor) (r : Registry) : Prop where
  /-- Assignable targets are the ones that have a part, so every one has something to work on. -/
  assignable : ∀ (use : TargetUse) (target : Target),
    r.isAssignable target.type d.declaring = true ↔ ∃ part, r.HasPart use d.declaring target part
  /-- No way that a binding was made with is lost halfway. -/
  ways : ∀ (use : TargetUse) (target : Target) (path : List Upcast), target.type ≠ d.declaring →
    (TargetBinding.paths r d.declaring).find? target.type = some path →
    (Upcast.follow? use path target).isSome
  getter : ∀ g, Getter.compile r d = .ok g → ∀ store,
    TargetRule r .read d (fun part => (g.source.get? d.declaring part store).map .ok)
      fun target => g.get target store
  setter : ∀ s, Setter.compile r d = .ok s → ∀ v store,
    TargetRule r .write d
      (fun part => (s.source.set? d.declaring part v store).map (Except.mapError .valueConversion))
      fun target => s.set target v store
  invoker : ∀ i, Invoker.compile r d = .ok i → ∀ args,
    ∀ h : args.length = i.descriptor.params.length,
    TargetRule r .write d
        (fun part => (i.method.body.at? d.declaring part).map fun body =>
          (Frame.prepare i.descriptor.params args h).map fun frame => (body, frame))
        (fun target => i.start target args) ∧
      ∀ target store, i.invoke target args store =
        match i.start target args with
        | .error e => ⟨.error e, args, store⟩
        | .ok (body, frame) => (body.run i.descriptor.params frame store).settle args

namespace TargetBinding

variable {r : Registry} {use : TargetUse} {d : MemberDescriptor}

theorem bind_static (h : d.isStatic = true) (target : Option Target) :
    (ofDescriptor r d).bind use target = .ok none := by
  rw [ofDescriptor, if_pos h, bind]

theorem bind_none (h : d.isStatic = false) :
    (ofDescriptor r d).bind use none = .error d.missing := by
  rw [ofDescriptor, h]
  rfl

/-- A target is bound to its part, if it is assignable. -/
theorem bind_some_of_hasPart (h : d.isStatic = false) {t part : Target}
    (hassignable : r.isAssignable t.type d.declaring = true)
    (hpart : r.HasPart use d.declaring t part) :
    (ofDescriptor r d).bind use (some t) = .ok (some part) := by
  rw [ofDescriptor, h]
  simp only [Bool.false_eq_true, if_false, bind, part?_eq_some_iff.2 ⟨hassignable, hpart⟩]

theorem bind_some_of_not_isAssignable (h : d.isStatic = false) {t : Target}
    (hassignable : r.isAssignable t.type d.declaring = false) :
    (ofDescriptor r d).bind use (some t) = .error d.unrelated := by
  have hnone : part? use d.declaring (paths r d.declaring) t = none := by
    refine Option.eq_none_iff_forall_ne_some.2 fun part hpart => ?_
    rw [(part?_eq_some_iff.1 hpart).1] at hassignable
    cases hassignable
  rw [ofDescriptor, h]
  simp only [Bool.false_eq_true, if_false, bind, hnone]
  rfl

end TargetBinding

namespace Scoped

variable {β : Type} {s : Scoped β}

theorem exists_at?_of_isStatic (h : s.isStatic = true) (owner : TypeId) (target : Option Target) :
    ∃ it, s.at? owner target = some it := by
  cases s with
  | shared it => exact ⟨it, rfl⟩
  | perInstance each => cases h

theorem exists_at?_of_type_eq {owner : TypeId} {target : Target} (h : target.type = owner) :
    ∃ it, s.at? owner (some target) = some it := by
  subst h
  exact Option.isSome_iff_exists.1 (s.at?_some target.type target.address)

end Scoped

/-- What has the scope of a member is there for everything that the member binds. -/
theorem TargetBinding.exists_at?_of_bind {β : Type} {r : Registry} {use : TargetUse}
    {d : MemberDescriptor} {s : Scoped β} (hscope : s.isStatic = d.isStatic)
    {target part : Option Target} (h : (ofDescriptor r d).bind use target = .ok part) :
    ∃ it, s.at? d.declaring part = some it := by
  cases hstatic : d.isStatic with
  | true => exact s.exists_at?_of_isStatic (hscope.trans hstatic) d.declaring part
  | false =>
    cases target with
    | none =>
      rw [bind_none hstatic] at h
      cases h
    | some t =>
      cases hassignable : r.isAssignable t.type d.declaring with
      | false =>
        rw [bind_some_of_not_isAssignable hstatic hassignable] at h
        cases h
      | true =>
        obtain ⟨found, hfound⟩ := Registry.exists_hasPart_of_isAssignable hassignable use
        rw [bind_some_of_hasPart hstatic hassignable hfound] at h
        cases h
        exact s.exists_at?_of_type_eq hfound.type_eq

/-- An access takes targets by the rule if it binds the target first, and then does with the part
what is there for it in the scope of the member. -/
theorem targetRule_of_scoped {α β : Type} {r : Registry} {use : TargetUse}
    {d : MemberDescriptor} {s : Scoped β} (hscope : s.isStatic = d.isStatic)
    {f : β → Except AccessError α} (hvalid : ∀ it e, f it = .error e → ¬e.IsInvalidTarget)
    {raw : Option Target → Option (Except AccessError α)}
    (hraw : ∀ part, raw part = (s.at? d.declaring part).map f)
    {run : Option Target → Except AccessError α}
    (hfail : ∀ target e, (TargetBinding.ofDescriptor r d).bind use target = .error e →
      run target = .error e)
    (hrun : ∀ target part it, (TargetBinding.ofDescriptor r d).bind use target = .ok part →
      s.at? d.declaring part = some it → run target = f it) :
    TargetRule r use d raw run := by
  -- Once a target is bound, the metadata has something for it, and that is what runs.
  have hbound : ∀ target part, (TargetBinding.ofDescriptor r d).bind use target = .ok part →
      raw part = some (run target) ∧ ∀ e, run target = .error e → ¬e.IsInvalidTarget := by
    intro target part hbind
    obtain ⟨it, hit⟩ := TargetBinding.exists_at?_of_bind hscope hbind
    rw [hraw, hit, hrun target part it hbind hit]
    exact ⟨rfl, hvalid it⟩
  have hpart : d.isStatic = false → ∀ t, r.isAssignable t.type d.declaring = true →
      ∃ part, r.HasPart use d.declaring t part ∧ raw (some part) = some (run (some t)) ∧
        ∀ e, run (some t) = .error e → ¬e.IsInvalidTarget := by
    intro h t hassignable
    obtain ⟨part, hpart⟩ := Registry.exists_hasPart_of_isAssignable hassignable use
    exact ⟨part, hpart, hbound _ _ (TargetBinding.bind_some_of_hasPart h hassignable hpart)⟩
  have hnone : d.isStatic = false → run none = .error d.missing := fun h =>
    hfail none _ (TargetBinding.bind_none h)
  have hunrelated : d.isStatic = false → ∀ t, r.isAssignable t.type d.declaring = false →
      run (some t) = .error d.unrelated := fun h t hassignable =>
    hfail (some t) _ (TargetBinding.bind_some_of_not_isAssignable h hassignable)
  refine ⟨?_, ?_, ?_, hpart, ?_⟩
  · intro h target
    exact hbound target none (TargetBinding.bind_static h target)
  · intro h target
    refine ⟨fun hmissing => ?_, fun habsent => habsent ▸ hnone h⟩
    cases target with
    | none => rfl
    | some t =>
      -- A target that is given fails as unrelated, or not for its type at all.
      cases hassignable : r.isAssignable t.type d.declaring with
      | false =>
        rw [hunrelated h t hassignable] at hmissing
        cases hmissing
      | true =>
        obtain ⟨-, -, -, hvalid⟩ := hpart h t hassignable
        exact absurd trivial (hvalid _ hmissing)
  · intro h target
    constructor
    · intro hfailed
      cases target with
      | none =>
        rw [hnone h] at hfailed
        cases hfailed
      | some t =>
        refine ⟨t, rfl, Bool.eq_false_iff.2 fun hassignable => ?_⟩
        obtain ⟨-, -, -, hvalid⟩ := hpart h t hassignable
        exact absurd trivial (hvalid _ hfailed)
    · rintro ⟨t, rfl, hassignable⟩
      exact hunrelated h t hassignable
  · intro target part hbind
    exact Option.isSome_of_eq_some (hbound target part hbind).1

theorem AccessError.not_isInvalidTarget_of_mapError {α : Type} {x : Except ConversionError α}
    {e : AccessError} (h : x.mapError .valueConversion = .error e) : ¬e.IsInvalidTarget := by
  cases x with
  | ok a => cases h
  | error cause =>
    cases h
    exact id

/-- Arguments that do not convert are no fault of the target. -/
theorem Frame.not_isInvalidTarget_of_prepareSlots {ps : List ParamInfo} {args : List Value}
    {e : AccessError} (h : prepareSlots ps args = .error e) : ¬e.IsInvalidTarget := by
  fun_induction prepareSlots ps args with
  | case1 p ps arg args ih =>
    cases hslot : prepareSlot p arg with
    | error cause =>
      rw [hslot] at h
      cases h
      rw [prepareSlot] at hslot
      split at hslot
      · cases hslot
      · exact AccessError.not_isInvalidTarget_of_mapError hslot
    | ok slot =>
      cases hrest : prepareSlots ps args with
      | error cause =>
        rw [hslot, hrest] at h
        cases h
        exact ih hrest
      | ok rest =>
        rw [hslot, hrest] at h
        cases h
  | case2 => cases h

/-! ## Getters and setters -/

namespace DataMember

/-- Reading looks up what is there for the part, in the scope of the member. -/
theorem exists_scoped_get? (source : DataMember) (store : Store) :
    ∃ (β : Type) (s : Scoped β) (f : β → Value), s.isStatic = source.isStatic ∧
      ∀ owner part, source.get? owner part store = (s.at? owner part).map f := by
  cases source with
  | field field => exact ⟨_, field.cells, _, rfl, fun _ _ => rfl⟩
  | property property => exact ⟨_, property.read, _, rfl, fun _ _ => rfl⟩

/-- Writing does so too: the two functions of a property have one scope. -/
theorem exists_scoped_set? {source : DataMember} (h : source.isWritable = true) (v : Value)
    (store : Store) :
    ∃ (β : Type) (s : Scoped β) (f : β → Except ConversionError Store),
      s.isStatic = source.isStatic ∧
        ∀ owner part, source.set? owner part v store = (s.at? owner part).map f := by
  cases source with
  | field field => exact ⟨_, field.cells, _, rfl, fun _ _ => rfl⟩
  | property property =>
    obtain ⟨setter, hsetter⟩ := Option.isSome_iff_exists.1 h
    refine ⟨_, setter.write, fun write => (property.type.coerce v).map fun w => write w store,
      property.setter_isStatic setter hsetter, fun owner part => ?_⟩
    rw [set?, hsetter, Option.bind_some, PropertyInfo.setWith?]

end DataMember

section Data

variable {r : Registry} {d : MemberDescriptor}

theorem Getter.targetRule {g : Getter} (hg : compile r d = .ok g) (store : Store) :
    TargetRule r .read d (fun part => (g.source.get? d.declaring part store).map .ok)
      fun target => g.get target store := by
  obtain ⟨source, hsource, rfl⟩ := compile_eq_ok_iff.1 hg
  obtain ⟨-, -, -, -, -, hstatic⟩ := Registry.exists_of_resolve?_data hsource
  obtain ⟨β, s, f, hscope, hget⟩ := source.exists_scoped_get? store
  refine targetRule_of_scoped (f := fun it => .ok (f it)) (hscope.trans hstatic) ?_ ?_ ?_ ?_
  · intro it e h
    cases h
  · intro part
    rw [hget, Option.map_map]
    rfl
  · intro target e hbind
    rw [get, hbind]
    rfl
  · intro target part it hbind hit
    rw [get, hbind]
    simp [bind, Except.bind, hget, hit]

theorem Setter.targetRule {s : Setter} (hs : compile r d = .ok s) (v : Value) (store : Store) :
    TargetRule r .write d
      (fun part => (s.source.set? d.declaring part v store).map (Except.mapError .valueConversion))
      fun target => s.set target v store := by
  obtain ⟨source, hwritable, hsource, rfl⟩ := compile_eq_ok_iff.1 hs
  obtain ⟨-, -, -, -, -, hstatic⟩ := Registry.exists_of_resolve?_data hsource
  obtain ⟨β, s, f, hscope, hset⟩ := DataMember.exists_scoped_set? hwritable v store
  refine targetRule_of_scoped (f := fun it => (f it).mapError .valueConversion)
    (hscope.trans hstatic) ?_ ?_ ?_ ?_
  · intro it e h
    exact AccessError.not_isInvalidTarget_of_mapError h
  · intro part
    rw [hset, Option.map_map]
    rfl
  · intro target e hbind
    rw [set, hbind]
    rfl
  · intro target part it hbind hit
    rw [set, hbind]
    simp [bind, Except.bind, hset, hit]

end Data

/-! ## Calls -/

namespace Invoker

variable {r : Registry} {d : MemberDescriptor} {i : Invoker}

theorem targetRule (hd : r.Gives d) (hi : compile r d = .ok i) {args : List Value}
    (h : args.length = i.descriptor.params.length) :
    TargetRule r .write d
      (fun part => (i.method.body.at? d.declaring part).map fun body =>
        (Frame.prepare i.descriptor.params args h).map fun frame => (body, frame))
      fun target => i.start target args := by
  obtain ⟨hclosed, m, hm, rfl⟩ := compile_eq_ok_iff.1 hi
  obtain ⟨hdeclaring, hstatic, -⟩ := hd.agrees_of_resolve? hclosed hm
  refine targetRule_of_scoped (s := m.body) hstatic ?_ (fun _ => rfl)
    (fun target e he => start_of_bind_error h he) ?_
  · intro body e he
    cases hprepare : Frame.prepare d.params args h with
    | ok frame =>
      rw [hprepare] at he
      cases he
    | error cause =>
      rw [hprepare] at he
      cases he
      exact Frame.not_isInvalidTarget_of_prepareSlots (Frame.prepare_eq_error_iff.1 hprepare)
  · intro target part body hbind hbody
    refine start_of_bind h hbind ?_
    rw [hdeclaring]
    exact hbody

end Invoker

/-- A member that a registry gives takes exactly the assignable targets, for reading, for writing
and for calls, and works on their parts. -/
theorem Registry.Gives.takesTargets {r : Registry} {d : MemberDescriptor} (hd : r.Gives d) :
    d.TakesTargets r where
  assignable use target := by
    obtain ⟨owner, howner, hdescribes⟩ := hd.exists_owner
    rw [← hdescribes.declaring] at howner
    exact isAssignable_iff_exists_hasPart howner use
  ways use target path hne hpath := TargetBinding.follow?_isSome_of_find? hne hpath use
  getter g hg store := Getter.targetRule hg store
  setter s hs v store := Setter.targetRule hs v store
  invoker i hi args h :=
    ⟨Invoker.targetRule hd hi h, fun target store => i.invoke_eq target args store⟩

open ForeignTable

/-- A method of the base type is given for the derived one, compiles, and takes the targets of both
types. -/
theorem Registry.takesTargets_inherited :
    abroad.Gives (.ofMethod (withGo person) (go person)) ∧
      (∃ i, Invoker.compile abroad (.ofMethod (withGo person) (go person)) = .ok i) ∧
      (MemberDescriptor.ofMethod (withGo person) (go person)).TakesTargets abroad := by
  have hmethod : abroad.method echo "Go" [.number (.int .i32)] =
      .ok (.ofMethod (withGo person) (go person)) := rfl
  have hgives : abroad.Gives (.ofMethod (withGo person) (go person)) := .method hmethod
  exact ⟨hgives, ⟨_, rfl⟩, hgives.takesTargets⟩

end Reflection
