import Reflection.Proofs.DispatchMemo
import Reflection.Proofs.HierarchyOrder
import Reflection.Proofs.Invocation

/-!
# Calls by name

A call by name either finds no overload, or comes to the body of a method. The overload that is
chosen was scored, so its arguments convert; it is in the member table, so its key denotes a method
of an ancestor and the target binds to it. The invoker that runs may have been compiled from another
descriptor of the same key, which changes none of this (`Invoker.reaches_of_compile`).

Main statement: `Handle.call_reaches_body`, for registries whose base links have no cycle: on a
cycle no member table is ever finished, and a call does not answer at all. As for remembered calls,
the calls of the shape must have used the tables of the cache's registry (`Handle.call_foreign`).
-/

set_option autoImplicit false

namespace Reflection

/-- The binding takes a target to the member: for a static member there is nothing to bind, and any
other one gets the part that the steps through the bases lead to. -/
def TargetBinding.Binds (b : TargetBinding) (r : Registry) (d : MemberDescriptor)
    (target : Target) : Prop :=
  if d.isStatic then b.bind .write (some target) = .ok none
  else ∃ path part, r.upcastPath? target.type d.declaring = some path ∧
    Upcast.follow? .write path target = some part ∧ part.type = d.declaring ∧
    b.bind .write (some target) = .ok (some part)

/-- A call of the target comes to the body of the method: there are as many arguments as
parameters, the target binds, and each argument that is read converts. -/
structure Invoker.Reaches (i : Invoker) (r : Registry) (target : Target) (args : List Value) :
    Prop where
  arity : args.length = i.descriptor.params.length
  binds : i.binding.Binds r i.descriptor target
  converts : ∀ (k : Nat) (p : ParamInfo) (arg : Value), i.descriptor.params[k]? = some p →
    args[k]? = some arg → p.mode ≠ .out → ∃ v, p.type.coerce arg = .ok v
  starts : ∃ body frame, i.start (some target) args = .ok (body, frame)

theorem ParamInfo.Accepts.exists_slot {p : ParamInfo} {arg : Value} (h : p.Accepts arg) :
    ∃ slot, Frame.prepareSlot p arg = .ok slot := by
  by_cases hmode : p.mode = .out
  · exact ⟨.null, Frame.prepareSlot_of_out hmode arg⟩
  · rcases h with hout | ⟨v, hv⟩
    · exact absurd hout hmode
    · refine ⟨v, ?_⟩
      rw [Frame.prepareSlot_of_ne_out hmode, TypeRef.convert_eq_ok_iff]
      exact hv

/-- Parameters of the same keys accept the same arguments. -/
theorem forall₂_accepts_of_key_eq {params others : List ParamInfo} {args : List Value}
    (h : List.Forall₂ ParamInfo.Accepts params args)
    (hkeys : params.map ParamInfo.key = others.map ParamInfo.key) :
    List.Forall₂ ParamInfo.Accepts others args := by
  induction h generalizing others with
  | nil =>
    cases others with
    | nil => exact .nil
    | cons => cases hkeys
  | cons haccepts _ ih =>
    cases others with
    | nil => cases hkeys
    | cons other others =>
      obtain ⟨hkey, hrest⟩ := List.cons.inj hkeys
      exact .cons (haccepts.of_key_eq hkey) (ih hrest)

namespace TargetBinding

/-- A target binds to every member of an ancestor of its type. -/
theorem binds_ofDescriptor {r : Registry} {target : Target} {owner : TypeInfo}
    (howner : owner ∈ r.ancestors target.type) {d : MemberDescriptor}
    (hdeclaring : d.declaring = owner.id) : (ofDescriptor r d).Binds r d target := by
  obtain ⟨path, part, hpath, hfollow, htype, hpart⟩ := part?_of_mem_ancestors howner .write
  rw [← hdeclaring] at hpath htype hpart
  rw [Binds, ofDescriptor]
  split
  · rfl
  · refine ⟨path, part, hpath, hfollow, htype, ?_⟩
    simp only [bind, hpart]

end TargetBinding

namespace Invoker

/-- An invoker reaches the body of its method, whichever descriptor of the method's key it was
compiled from. -/
theorem reaches_of_compile {r : Registry} {target : Target} {args : List Value}
    {owner : TypeInfo} {m : MethodInfo} (howner : owner ∈ r.ancestors target.type)
    (hm : m ∈ owner.methods) (haccepts : List.Forall₂ ParamInfo.Accepts m.params args)
    {i : Invoker} (hcompile : compile r i.descriptor = .ok i)
    (hkey : i.descriptor.key = (MemberDescriptor.ofMethod owner m).key) :
    i.Reaches r target args := by
  obtain ⟨-, found, hresolve, hi⟩ := compile_eq_ok_iff.1 hcompile
  -- The method that runs is the one that the key denotes.
  obtain ⟨denoted, hdenoted, hdenotes, hmatch⟩ :=
    Registry.resolve?_key_ofMethod (Registry.find?_id_of_mem_chain howner) hm
  rw [hkey, hdenotes, Option.some.injEq, Member.method.injEq] at hresolve
  subst hresolve
  have hstatic : denoted.isStatic = i.descriptor.isStatic := by
    rw [MemberDescriptor.isStatic_of_key_eq hkey]
    rw [MemberKey.matchesMethod, Bool.and_eq_true, Bool.and_eq_true, beq_iff_eq,
      beq_iff_eq] at hmatch
    exact hmatch.1.2
  have hdeclaring : i.descriptor.declaring = owner.id := MemberDescriptor.declaring_of_key_eq hkey
  have hmethod : i.method = denoted := by rw [hi]
  have hbinding : i.binding = .ofDescriptor r i.descriptor := by rw [hi]
  have hparams : List.Forall₂ ParamInfo.Accepts i.descriptor.params args :=
    forall₂_accepts_of_key_eq haccepts (MemberDescriptor.params_of_key_eq hkey).symm
  have harity : args.length = i.descriptor.params.length := hparams.length_eq.symm
  have hbinds : i.binding.Binds r i.descriptor target := by
    rw [hbinding]
    exact TargetBinding.binds_ofDescriptor howner hdeclaring
  refine ⟨harity, hbinds, ?_, ?_⟩
  · intro k p arg hp harg hmode
    obtain ⟨hk, rfl⟩ := List.getElem?_eq_some_iff.1 hp
    obtain ⟨hk', rfl⟩ := List.getElem?_eq_some_iff.1 harg
    rcases hparams.get hk hk' with hout | hv
    · exact absurd hout hmode
    · exact hv
  · obtain ⟨slots, hslots⟩ :=
      Frame.exists_prepareSlots (hparams.imp fun _ _ haccept => haccept.exists_slot)
    have hat : ∃ part body, i.binding.bind .write (some target) = .ok part ∧
        i.method.body.at? i.method.declaring part = some body := by
      rw [hmethod, owner.methods_declaring denoted hdenoted, ← hdeclaring]
      -- A shared body needs no part, and any other one is run on the part that was bound.
      cases hbody : denoted.body with
      | shared body =>
        rw [TargetBinding.Binds, ← hstatic, MethodInfo.isStatic, hbody] at hbinds
        exact ⟨none, body, hbinds, rfl⟩
      | perInstance each =>
        rw [TargetBinding.Binds, ← hstatic, MethodInfo.isStatic, hbody] at hbinds
        obtain ⟨path, part, -, -, htype, hpart⟩ := hbinds
        exact ⟨some part, each part.address, hpart, by simp [Scoped.at?, htype]⟩
    obtain ⟨part, body, hpart, hbody⟩ := hat
    exact ⟨body, ⟨slots, Frame.length_prepareSlots hslots harity⟩,
      start_eq_ok_iff.2 ⟨harity, hslots, part, hpart, hbody⟩⟩

/-- A method of a member table compiles. -/
theorem exists_compile_ofMethod {r : Registry} {owner : TypeInfo} {m : MethodInfo}
    (howner : r.find? owner.id = some owner) (hm : m ∈ owner.methods) :
    ∃ i, compile r (.ofMethod owner m) = .ok i ∧ i.descriptor = .ofMethod owner m := by
  obtain ⟨found, -, hresolve, -⟩ := Registry.resolve?_key_ofMethod howner hm
  exact ⟨_, compile_eq_ok_iff.2 ⟨rfl, found, hresolve, rfl⟩, rfl⟩

end Invoker

/-- The invoker that a sound cache gives was compiled from a descriptor of the same key. -/
theorem AccessorCache.Sound.exists_invoker {c : AccessorCache} {r : Registry} (h : c.Sound r)
    {d : MemberDescriptor} {fresh : Invoker} (hfresh : Invoker.compile r d = .ok fresh) :
    ∃ slot i c', c.invoker d = (.ok ⟨slot, i⟩, c') ∧ i.descriptor.key = d.key ∧
      Invoker.compile r i.descriptor = .ok i := by
  -- It cannot fail, since compiling does not.
  rcases h.invoker_cases d with ⟨e, -, he⟩ | ⟨s, first, hs, hkey, hfirst⟩
  · rw [he] at hfresh
    cases hfresh
  · have hdescriptor : s.item.descriptor = first := by
      obtain ⟨-, m, -, hitem⟩ := Invoker.compile_eq_ok_iff.1 hfirst
      rw [hitem]
    refine ⟨s.slot, s.item, (c.invoker d).2, Prod.ext hs rfl, ?_, ?_⟩
    · rw [hdescriptor, hkey]
    · rw [hdescriptor, hfirst]

namespace Handle

/-- The overload that a call by name means, freshly chosen or remembered, and the cache after the
choice. -/
def choice (h : Handle) (c : AccessorCache) (name : String) (args : List Value) :
    Except AccessError MemberDescriptor × AccessorCache :=
  (h.table c).2.resolveCall (h.table c).1 name args

variable {h : Handle} {c : AccessorCache} {name : String} {args : List Value}

theorem call_of_choice_error {e : AccessError} (he : (h.choice c name args).1 = .error e)
    (store : Store) : (h.call c name args store).1 = ⟨.error e, args, store⟩ := by
  rw [choice] at he
  rw [call]
  dsimp only
  generalize (h.table c).2.resolveCall (h.table c).1 name args = chosen at he
  obtain ⟨result, c'⟩ := chosen
  subst he
  rfl

theorem call_of_choice_ok {d : MemberDescriptor} (hd : (h.choice c name args).1 = .ok d)
    (store : Store) :
    h.call c name args store = h.invoke (h.choice c name args).2 d args store := by
  rw [choice] at hd ⊢
  rw [call]
  dsimp only
  generalize (h.table c).2.resolveCall (h.table c).1 name args = chosen at hd ⊢
  obtain ⟨result, c'⟩ := chosen
  subst hd
  rfl

/-- What a call by name comes to. It has a table to choose from. If no overload is chosen, that is
the error, and it is the choice's own. If one is, it compiles, and both its own invoker and the one
that the cache gives reach the body; the call is what the body leaves behind. -/
structure Dispatches (h : Handle) (r : Registry) (c : AccessorCache) (name : String)
    (args : List Value) (store : Store) : Prop where
  table : c.HasTable h.target.type
  /-- Whichever overload is chosen, its binding can be made. -/
  bindings : ∀ d, TargetBinding.Ends r d
  unresolved : ∀ e, (h.choice c name args).1 = .error e →
    e.IsUnresolved ∧ (h.call c name args store).1 = ⟨.error e, args, store⟩
  resolved : ∀ d, (h.choice c name args).1 = .ok d →
    ∃ fresh i body frame, Invoker.compile r d = .ok fresh ∧ fresh.descriptor = d ∧
      fresh.Reaches r h.target args ∧ Invoker.compile r i.descriptor = .ok i ∧
      i.descriptor.key = d.key ∧ i.Reaches r h.target args ∧
      i.start (some h.target) args = .ok (body, frame) ∧
      (h.call c name args store).1 = (body.run i.descriptor.params frame store).settle args

/-- A handle chooses as its cache's registry does. -/
theorem choice_fst {r : Registry} (hsound : c.Sound r)
    (hfaithful : c.Faithful r ⟨h.target.type, name, args.map Value.typeKey?⟩) :
    (h.choice c name args).1 = (MemberTable.build r h.target.type).resolveCall name args := by
  rw [choice, table, hsound.memberTable_fst]
  exact (hfaithful.of_calls_eq (c.calls_memberTable _)).resolveCall_fst

theorem dispatches_of_faithful {r : Registry} (hr : r.Acyclic) (hsound : c.Sound r)
    (hfaithful : c.Faithful r ⟨h.target.type, name, args.map Value.typeKey?⟩) (store : Store) :
    h.Dispatches r c name args store := by
  have hchoice := choice_fst hsound hfaithful
  refine ⟨hsound.hasTable (hr.ends h.target.type), hr.binding_ends, ?_, ?_⟩
  · intro e he
    refine ⟨?_, call_of_choice_error he store⟩
    rw [hchoice] at he
    exact MemberTable.isUnresolved_of_resolveCall he
  · intro d hd
    have hresolve := hd
    rw [hchoice] at hresolve
    -- The overload is a method of an ancestor, and it has a score for the arguments.
    obtain ⟨hnamed, total, htotal⟩ := MemberTable.totalScore?_of_resolveCall hresolve
    obtain ⟨owner, howner, m, hm, rfl⟩ :=
      MemberTable.exists_of_mem_methods_build (List.mem_of_mem_filter hnamed)
    have haccepts : List.Forall₂ ParamInfo.Accepts m.params args :=
      forall₂_accepts_of_totalScore? htotal
    obtain ⟨fresh, hfresh, hdescriptor⟩ :=
      Invoker.exists_compile_ofMethod (Registry.find?_id_of_mem_chain howner) hm
    -- The invoker that runs may be an older one, compiled from another descriptor of the key.
    have hafter : (h.choice c name args).2.Sound r :=
      (hsound.memberTable h.target.type).resolveCall _ name args
    obtain ⟨slot, i, c', hinvoker, hkey, hcompile⟩ := hafter.exists_invoker hfresh
    have hreaches := Invoker.reaches_of_compile howner hm haccepts hcompile hkey
    obtain ⟨body, frame, hstart⟩ := hreaches.starts
    refine ⟨fresh, i, body, frame, hfresh, hdescriptor, ?_, hcompile, hkey, hreaches, hstart, ?_⟩
    · rw [← hdescriptor] at hfresh
      exact Invoker.reaches_of_compile howner hm haccepts hfresh (by rw [hdescriptor])
    · rw [call_of_choice_ok hd, invoke, hinvoker]
      exact Invoker.invoke_of_start hstart store

/-- If the base links have no cycle, a call by name that resolves an overload reaches the body of
its method, after every history whose calls of the shape used the tables of the cache's registry.
Otherwise it says that there is no overload, or no single best one. -/
theorem call_reaches_body {r : Registry} (hr : r.Acyclic) (history : List CacheRequest)
    (h : Handle) (name : String) (args : List Value) (store : Store)
    (hown : ∀ q ∈ history, q.UsesOwnTable r ⟨h.target.type, name, args.map Value.typeKey?⟩) :
    h.Dispatches r ((AccessorCache.ofRegistry r).run history) name args store := by
  have hsound := AccessorCache.sound_ofRegistry r
  have hempty := AccessorCache.faithful_ofRegistry r ⟨h.target.type, name,
    args.map Value.typeKey?⟩
  exact dispatches_of_faithful hr (hsound.run history) (hempty.run hsound hown) store

open ForeignTable

/-- No type of the registry has a base. -/
theorem acyclic_home : home.Acyclic :=
  Registry.acyclic_of_rank (fun _ => 0) (by decide)

/-- A call that is remembered from another number reaches the body, which gives no value. -/
theorem call_home :
    home.Acyclic ∧
      (∀ q ∈ ownHistory,
        q.UsesOwnTable home ⟨handle.target.type, "Go", [two].map Value.typeKey?⟩) ∧
      handle.Dispatches home ((AccessorCache.ofRegistry home).run ownHistory) "Go" [two] .empty :=
  ⟨acyclic_home, usesOwnTable_ownHistory,
    call_reaches_body acyclic_home ownHistory handle "Go" [two] .empty usesOwnTable_ownHistory⟩

/-- Without the condition a call can fail before its body: the overload that a foreign table chose
belongs to a type that is no base of the target's. -/
theorem call_foreign :
    (handle.call ((AccessorCache.ofRegistry home).run foreignHistory) "Go" [one] .empty).1.result =
        .error (.invalidTarget "Person::Go(i32)" person.name .unrelated) ∧
      ¬ handle.Dispatches home ((AccessorCache.ofRegistry home).run foreignHistory) "Go" [one]
        .empty := by
  refine ⟨rfl, ?_⟩
  intro hdispatches
  have hchoice : (handle.choice ((AccessorCache.ofRegistry home).run foreignHistory) "Go"
      [one]).1 = .ok (.ofMethod (withGo person) (go person)) := rfl
  obtain ⟨fresh, -, -, -, -, hdescriptor, hreaches, -⟩ := hdispatches.resolved _ hchoice
  have hbinds := hreaches.binds
  rw [hdescriptor] at hbinds
  obtain ⟨path, -, hpath, -⟩ := hbinds
  have hnone : home.upcastPath? echo person = none := rfl
  exact Option.some_ne_none path (hpath.symm.trans hnone)

end Handle

end Reflection
