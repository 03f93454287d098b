import Reflection.Proofs.Dispatch
import Reflection.Proofs.TargetRule

/-!
# Calls of generic methods

A call of a generic method takes the definition of the nearest ancestor that has one of the name,
and of it the first instance for exactly the given type arguments. The instance is found once by its
type arguments and then again by the key of the closed method, and a cache may run it with an older
invoker of that key. None of this shows: what runs is the body of the instance, on the part of the
target, as for a plain method (`MethodBody.call`, `Invoker.invoke_eq_call`).

Main statement: `Handle.callGeneric_runs_instance`, for registries whose base links have no cycle:
on a cycle no member table is ever finished. A generic method without type parameters is left out:
its key is the key of a plain method, and plain methods are what is found under it
(`Handle.callGeneric_runs_plain`).
-/

set_option autoImplicit false

namespace Reflection

/-- A call of a body that has its target: the arguments are counted and converted into a frame, and
the call is what the body leaves behind. `member` is the text that a wrong count shows. -/
def MethodBody.call (body : MethodBody) (params : List ParamInfo) (member : String)
    (args : List Value) (store : Store) : Invocation :=
  if h : args.length = params.length then
    match Frame.prepare params args h with
    | .error e => ⟨.error e, args, store⟩
    | .ok frame => (body.run params frame store).settle args
  else ⟨.error (.arityMismatch member params.length args.length), args, store⟩

namespace Registry

variable {r : Registry} {owner : TypeInfo} {name : String}

/-- The generic method that a name means, and the ancestor that declares it: the nearest one with a
generic method of the name. -/
def genericDefinition? (r : Registry) (type : TypeId) (name : String) :
    Option (TypeInfo × GenericMethodInfo) :=
  (r.ancestors type).findSome? fun owner => (owner.generic? name).map fun g => (owner, g)

theorem genericDefinition?_eq_some {type : TypeId} {g : GenericMethodInfo}
    (h : r.genericDefinition? type name = some (owner, g)) :
    owner ∈ r.ancestors type ∧ owner.generic? g.name = some g := by
  obtain ⟨first, hfirst, hg⟩ := List.exists_of_findSome?_eq_some h
  obtain ⟨found, hfound, heq⟩ := Option.map_eq_some_iff.1 hg
  cases heq
  exact ⟨hfirst, TypeInfo.name_of_generic? hfound ▸ hfound⟩

/-- The descriptor for a name is the one of the definition that the name means. -/
theorem findSome?_ofOpenGeneric (r : Registry) (type : TypeId) (name : String) :
    ((r.ancestors type).findSome? fun owner =>
      (owner.generic? name).map (MemberDescriptor.ofOpenGeneric owner)) =
      (r.genericDefinition? type name).map fun p => .ofOpenGeneric p.1 p.2 := by
  rw [genericDefinition?]
  induction r.ancestors type with
  | nil => rfl
  | cons owner owners ih =>
    rw [List.findSome?_cons, List.findSome?_cons]
    cases owner.generic? name with
    | none => exact ih
    | some g => rfl

/-- Closing a definition gives the first instance for the type arguments, and fails if there is
none. -/
theorem closeGeneric_ofOpenGeneric (howner : r.find? owner.id = some owner) {g : GenericMethodInfo}
    (hg : owner.generic? g.name = some g) (typeArgs : List TypeRef) :
    r.closeGeneric (.ofOpenGeneric owner g) typeArgs =
      match g.instanceFor? typeArgs with
      | some m => .ok (.ofClosedGeneric owner g typeArgs m)
      | none => .error (.memberNotFound owner.name
          (g.name ++ "<" ++ commaSeparated (typeArgs.map TypeRef.display) ++ ">")) := by
  cases hm : g.instanceFor? typeArgs with
  | some m =>
    obtain ⟨hlength, -, -⟩ := TypeInfo.fits_of_instanceFor? hg hm
    exact closeGeneric_eq_ok_iff.2
      (closedGeneric?_eq_some_iff.2 ⟨owner, g, m, howner, hg, hlength.symm, hm, rfl⟩)
  | none =>
    have hnone : r.closedGeneric? (.ofOpenGeneric owner g) typeArgs = none := by
      refine Option.eq_none_iff_forall_ne_some.2 fun d hd => ?_
      obtain ⟨other, found, m, hother, hfound, -, hinstance, -⟩ := closedGeneric?_eq_some_iff.1 hd
      obtain rfl : other = owner := Option.some.inj (hother.symm.trans howner)
      obtain rfl : found = g := Option.some.inj (hfound.symm.trans hg)
      rw [hm] at hinstance
      cases hinstance
    have hnameOf : r.nameOf owner.id = owner.name := by
      rw [nameOf, howner]
    rw [closeGeneric, hnone]
    simp only [notFound, MemberDescriptor.ofOpenGeneric, hnameOf]

end Registry

namespace Invoker

variable {r : Registry} {i : Invoker} {target part : Target} {body : MethodBody}

/-- An invoker whose descriptor agrees with its method runs the body for the part of an assignable
target. -/
theorem invoke_eq_call (hbinding : i.binding = .ofDescriptor r i.descriptor)
    (hstatic : i.method.isStatic = i.descriptor.isStatic)
    (hassignable : r.isAssignable target.type i.descriptor.declaring = true)
    (hpart : r.HasPart .write i.descriptor.declaring target part)
    (hbody : i.method.body.at? i.method.declaring (some part) = some body) (args : List Value)
    (store : Store) :
    i.invoke (some target) args store =
      body.call i.descriptor.params i.descriptor.display args store := by
  obtain ⟨bound, hbound, hat⟩ : ∃ bound, i.binding.bind .write (some target) = .ok bound ∧
      i.method.body.at? i.method.declaring bound = some body := by
    rw [hbinding]
    cases hscope : i.descriptor.isStatic with
    | true =>
      refine ⟨none, TargetBinding.bind_static hscope _, ?_⟩
      -- A shared body is the same without target.
      rw [hscope, MethodInfo.isStatic] at hstatic
      cases hmethod : i.method.body with
      | shared it => rwa [hmethod] at hbody
      | perInstance each =>
        rw [hmethod] at hstatic
        cases hstatic
    | false => exact ⟨some part, TargetBinding.bind_some_of_hasPart hscope hassignable hpart, hbody⟩
  rw [invoke_eq, MethodBody.call]
  by_cases hlength : args.length = i.descriptor.params.length
  · rw [start_of_bind hlength hbound hat, dif_pos hlength]
    cases Frame.prepare i.descriptor.params args hlength <;> rfl
  · rw [start, dif_neg hlength, dif_neg hlength]

section Instance

variable {owner : TypeInfo} {g : GenericMethodInfo} {typeArgs : List TypeRef} {m : MethodInfo}

/-- The invoker of a closed generic method with type parameters runs the instance. -/
theorem compile_ofClosedGeneric (howner : r.find? owner.id = some owner)
    (hg : owner.generic? g.name = some g) (harity : 0 < g.arity)
    (hm : g.instanceFor? typeArgs = some m) :
    compile r (.ofClosedGeneric owner g typeArgs m) =
      .ok ⟨.ofClosedGeneric owner g typeArgs m,
        .ofDescriptor r (.ofClosedGeneric owner g typeArgs m), m⟩ := by
  obtain ⟨hlength, -, -⟩ := TypeInfo.fits_of_instanceFor? hg hm
  have hclosed : (MemberDescriptor.ofClosedGeneric owner g typeArgs m).isOpenGeneric = false :=
    decide_eq_false (Nat.not_lt.2 (Nat.le_of_eq hlength.symm))
  exact compile_eq_ok_iff.2
    ⟨hclosed, m, Registry.resolve?_ofClosedGeneric howner hg hm (Nat.ne_of_gt harity), rfl⟩

/-- Every invoker of the key of a closed generic method runs the instance, whichever descriptor it
was compiled from. -/
theorem invoke_of_key_eq_ofClosedGeneric (howner : owner ∈ r.ancestors target.type)
    (hg : owner.generic? g.name = some g) (harity : 0 < g.arity)
    (hm : g.instanceFor? typeArgs = some m) (hpart : r.HasPart .write owner.id target part)
    (hbody : m.body.at? owner.id (some part) = some body)
    (hcompile : compile r i.descriptor = .ok i)
    (hkey : i.descriptor.key = (MemberDescriptor.ofClosedGeneric owner g typeArgs m).key)
    (args : List Value) (store : Store) :
    i.invoke (some target) args store = body.call i.descriptor.params
      (MemberDescriptor.ofClosedGeneric owner g typeArgs m).display args store := by
  obtain ⟨hclosed, found, hfound, hi⟩ := compile_eq_ok_iff.1 hcompile
  -- The method that runs is the one that the key denotes.
  rw [hkey, Registry.resolve?_ofClosedGeneric (Registry.find?_id_of_mem_chain howner) hg hm
    (Nat.ne_of_gt harity), Option.some.injEq, Member.method.injEq] at hfound
  subst hfound
  have hmethod : i.method = m := by rw [hi]
  have hbinding : i.binding = .ofDescriptor r i.descriptor := by rw [hi]
  have hdeclaring : i.descriptor.declaring = owner.id := MemberDescriptor.declaring_of_key_eq hkey
  obtain ⟨-, -, howned⟩ := TypeInfo.fits_of_instanceFor? hg hm
  rw [← MemberDescriptor.display_of_key_eq hkey hclosed]
  refine invoke_eq_call hbinding ?_ ?_ (hdeclaring ▸ hpart) ?_ args store
  · rw [hmethod]
    exact (MemberDescriptor.isStatic_of_key_eq hkey).symm
  · rw [hdeclaring]
    exact Registry.isAssignable_of_mem_ancestors howner
  · rw [hmethod, howned]
    exact hbody

end Instance

end Invoker

namespace Handle

/-- A call runs the body of an instance for the target's part of the declaring type: with the cache,
without it, and as the call of a plain method does. -/
structure RunsInstance (h : Handle) (r : Registry) (c : AccessorCache) (name : String)
    (owner : TypeInfo) (g : GenericMethodInfo) (typeArgs : List TypeRef) (m : MethodInfo)
    (body : MethodBody) (args : List Value) (store : Store) : Prop where
  part : ∃ part, r.HasPart .write owner.id h.target part ∧
    m.body.at? owner.id (some part) = some body
  /-- The invoker may be older, but the types and the modes of its parameters are the instance's. -/
  byName : ∃ params, params.map ParamInfo.key = m.paramKeys ∧
    (h.callGeneric c name typeArgs args store).1 =
      body.call params (MemberDescriptor.ofClosedGeneric owner g typeArgs m).display args store
  closes : r.closeGeneric (.ofOpenGeneric owner g) typeArgs =
    .ok (.ofClosedGeneric owner g typeArgs m)
  direct : ∃ i, Invoker.compile r (.ofClosedGeneric owner g typeArgs m) = .ok i ∧
    i.invoke (some h.target) args store =
      body.call m.params (MemberDescriptor.ofClosedGeneric owner g typeArgs m).display args store
  plain : Invoker.invoke ⟨.ofMethod owner m, .ofDescriptor r (.ofMethod owner m), m⟩ (some h.target)
      args store =
    body.call m.params (MemberDescriptor.ofMethod owner m).display args store

/-- What a call of a generic method comes to. -/
structure GenericCall (h : Handle) (r : Registry) (c : AccessorCache) (name : String)
    (typeArgs : List TypeRef) (args : List Value) (store : Store) : Prop where
  /-- The handle has a table to look the name up in. -/
  table : c.HasTable h.target.type
  /-- Whichever method has to be compiled, its binding can be made. -/
  bindings : ∀ d, TargetBinding.Ends r d
  undefined : r.genericDefinition? h.target.type name = none →
    let e := r.notFound h.target.type name
    r.generic h.target.type name = .error e ∧
      (h.callGeneric c name typeArgs args store).1 = ⟨.error e, args, store⟩
  defined : ∀ owner g, r.genericDefinition? h.target.type name = some (owner, g) →
    r.generic h.target.type name = .ok (.ofOpenGeneric owner g)
  opened : ∀ owner g, r.genericDefinition? h.target.type name = some (owner, g) → 0 < g.arity →
    Invoker.compile r (.ofOpenGeneric owner g) =
      .error (.openGenericMethod (MemberDescriptor.ofOpenGeneric owner g).display g.arity)
  missing : ∀ owner g, r.genericDefinition? h.target.type name = some (owner, g) →
    g.instanceFor? typeArgs = none →
    let e := .memberNotFound owner.name
      (g.name ++ "<" ++ commaSeparated (typeArgs.map TypeRef.display) ++ ">")
    r.closeGeneric (.ofOpenGeneric owner g) typeArgs = .error e ∧
      (h.callGeneric c name typeArgs args store).1 = ⟨.error e, args, store⟩
  runs : ∀ owner g m, r.genericDefinition? h.target.type name = some (owner, g) → 0 < g.arity →
    g.instanceFor? typeArgs = some m →
    ∃ body, h.RunsInstance r c name owner g typeArgs m body args store

variable {h : Handle} {r : Registry} {c : AccessorCache} {name : String} {typeArgs : List TypeRef}
  {args : List Value} {store : Store}

/-- A handle closes the definition of the name and calls the instance. -/
theorem callGeneric_fst (hsound : c.Sound r) :
    (h.callGeneric c name typeArgs args store).1 =
      match r.genericDefinition? h.target.type name with
      | none => ⟨.error (r.notFound h.target.type name), args, store⟩
      | some (owner, g) =>
        match r.closeGeneric (.ofOpenGeneric owner g) typeArgs with
        | .error e => ⟨.error e, args, store⟩
        | .ok d => (h.invoke (h.table c).2 d args store).1 := by
  have htable : (h.table c).1 = .build r h.target.type := hsound.memberTable_fst h.target.type
  have hregistry : (h.table c).2.registry = r := (hsound.memberTable h.target.type).registry
  have hgeneric : (h.table c).1.generic? name =
      (r.genericDefinition? h.target.type name).map fun p => .ofOpenGeneric p.1 p.2 := by
    rw [htable, MemberTable.generic?_build, Registry.findSome?_ofOpenGeneric]
  have hnotFound : (h.table c).1.notFound name = r.notFound h.target.type name := by
    rw [htable, MemberTable.notFound, MemberTable.typeName_build, Registry.notFound]
  rw [callGeneric]
  dsimp only
  rw [hgeneric, hregistry, hnotFound]
  cases r.genericDefinition? h.target.type name with
  | none => rfl
  | some p =>
    dsimp only [Option.map_some]
    cases r.closeGeneric (.ofOpenGeneric p.1 p.2) typeArgs <;> rfl

theorem exists_runsInstance (hsound : c.Sound r) {owner : TypeInfo} {g : GenericMethodInfo}
    {m : MethodInfo} (hdefined : r.genericDefinition? h.target.type name = some (owner, g))
    (harity : 0 < g.arity) (hm : g.instanceFor? typeArgs = some m) :
    ∃ body, h.RunsInstance r c name owner g typeArgs m body args store := by
  obtain ⟨howner, hg⟩ := Registry.genericDefinition?_eq_some hdefined
  have hfind : r.find? owner.id = some owner := Registry.find?_id_of_mem_chain howner
  have hassignable := Registry.isAssignable_of_mem_ancestors howner
  obtain ⟨part, hpart⟩ := Registry.exists_hasPart_of_isAssignable hassignable .write
  obtain ⟨body, hbody⟩ := m.body.exists_at?_of_type_eq hpart.type_eq
  have hcloses : r.closeGeneric (.ofOpenGeneric owner g) typeArgs =
      .ok (.ofClosedGeneric owner g typeArgs m) := by
    rw [Registry.closeGeneric_ofOpenGeneric hfind hg, hm]
  have hcompile := Invoker.compile_ofClosedGeneric hfind hg harity hm
  have hruns : ∀ {i : Invoker}, Invoker.compile r i.descriptor = .ok i →
      i.descriptor.key = (MemberDescriptor.ofClosedGeneric owner g typeArgs m).key →
      i.invoke (some h.target) args store = body.call i.descriptor.params
        (MemberDescriptor.ofClosedGeneric owner g typeArgs m).display args store :=
    fun hi hkey => Invoker.invoke_of_key_eq_ofClosedGeneric howner hg harity hm hpart hbody hi hkey
      args store
  refine ⟨body, ⟨part, hpart, hbody⟩, ?_, hcloses, ⟨_, hcompile, ?_⟩, ?_⟩
  · -- The cache may give an older invoker of the key.
    obtain ⟨slot, i, c', hinvoker, hkey, hi⟩ :=
      (hsound.memberTable h.target.type).exists_invoker hcompile
    refine ⟨i.descriptor.params, MemberDescriptor.params_of_key_eq hkey, ?_⟩
    rw [callGeneric_fst hsound, hdefined]
    dsimp only
    rw [hcloses]
    dsimp only
    rw [invoke, table, hinvoker]
    exact hruns hi hkey
  · exact hruns hcompile rfl
  · obtain ⟨-, -, howned⟩ := TypeInfo.fits_of_instanceFor? hg hm
    exact Invoker.invoke_eq_call rfl rfl hassignable hpart (howned ▸ hbody) args store

/-- If the base links have no cycle, then after every history of the cache a call of a generic
method runs the first instance for exactly the given type arguments, as the call of a plain method
would, if the method that the name means has type parameters. Without an instance it fails and
changes nothing, and without type arguments the method does not compile. -/
theorem callGeneric_runs_instance {r : Registry} (hr : r.Acyclic) (history : List CacheRequest)
    (h : Handle) (name : String) (typeArgs : List TypeRef) (args : List Value) (store : Store) :
    h.GenericCall r ((AccessorCache.ofRegistry r).run history) name typeArgs args store := by
  have hsound := (AccessorCache.sound_ofRegistry r).run history
  refine ⟨hsound.hasTable (hr.ends h.target.type), hr.binding_ends, ?_, ?_, ?_, ?_, ?_⟩
  · intro hnone
    refine ⟨?_, ?_⟩
    · rw [Registry.generic, Registry.nearest, Registry.findSome?_ofOpenGeneric, hnone]
      rfl
    · rw [callGeneric_fst hsound, hnone]
  · intro owner g hdefined
    rw [Registry.generic, Registry.nearest, Registry.findSome?_ofOpenGeneric, hdefined]
    rfl
  · intro owner g hdefined harity
    exact if_pos (decide_eq_true harity)
  · intro owner g hdefined hnone
    obtain ⟨howner, hg⟩ := Registry.genericDefinition?_eq_some hdefined
    have hcloses := Registry.closeGeneric_ofOpenGeneric (Registry.find?_id_of_mem_chain howner) hg
      typeArgs
    rw [hnone] at hcloses
    refine ⟨hcloses, ?_⟩
    rw [callGeneric_fst hsound, hdefined]
    dsimp only
    rw [hcloses]
  · intro owner g m hdefined harity hm
    exact exists_runsInstance hsound hdefined harity hm

end Handle

/-! ## A plain method and a generic one of one name -/

namespace NamesakeMethods

open ForeignTable

/-- A method without parameters that returns a constant. -/
def constant (b : Bool) : MethodInfo where
  name := "Go"
  visibility := .pub
  declaring := echo
  params := []
  returnType := some .bool
  body := .perInstance fun _ => ⟨fun _ frame store => ⟨.ok (some (.bool b)), frame, store⟩⟩

/-- A generic method with one instance. -/
def generic (typeParams : List String) (typeArgs : List TypeRef) : GenericMethodInfo :=
  ⟨"Go", .pub, typeParams, [⟨typeArgs, constant true⟩]⟩

/-- A type with the generic method and a plain one. -/
def both (typeParams : List String) (typeArgs : List TypeRef)
    (h : typeArgs.length = typeParams.length) : TypeInfo :=
  { bare echo none with
    methods := [constant false]
    generics := [generic typeParams typeArgs]
    methods_declaring := by simp [constant, bare, TypeInfo.ofInterface]
    generics_fit := by
      simpa [GenericMethodInfo.Fits, generic, constant, GenericMethodInfo.arity, bare,
        TypeInfo.ofInterface] using h }

/-- The registry of a type whose generic method has a type parameter. -/
def parametric : Registry :=
  Registry.empty.insert (both ["T"] [.bool] rfl)

/-- The registry of a type whose generic method has none. -/
def parameterless : Registry :=
  Registry.empty.insert (both [] [] rfl)

theorem acyclic_parametric : parametric.Acyclic :=
  Registry.acyclic_of_rank (fun _ => 0) (by decide)

end NamesakeMethods

namespace Handle

open ForeignTable NamesakeMethods

/-- The instance is run although a plain method has its name and parameters. -/
theorem callGeneric_parametric :
    parametric.Acyclic ∧ parametric.genericDefinition? echo "Go" =
        some (both ["T"] [.bool] rfl, generic ["T"] [.bool]) ∧
      0 < (generic ["T"] [.bool]).arity ∧
      (generic ["T"] [.bool]).instanceFor? [.bool] = some (constant true) ∧
      ∃ body, handle.RunsInstance parametric ((AccessorCache.ofRegistry parametric).run []) "Go"
        (both ["T"] [.bool] rfl) (generic ["T"] [.bool]) [.bool] (constant true) body [] .empty :=
  ⟨acyclic_parametric, rfl, by decide, rfl,
    (callGeneric_runs_instance acyclic_parametric [] handle "Go" [.bool] [] .empty).runs _ _ _ rfl
      (by decide) rfl⟩

/-- Without type parameters the instance is not run: the plain method is, and the definition
compiles before its type arguments are chosen. -/
theorem callGeneric_runs_plain :
    parameterless.genericDefinition? echo "Go" = some (both [] [] rfl, generic [] []) ∧
      (generic [] []).instanceFor? [] = some (constant true) ∧
      (handle.callGeneric (.ofRegistry parameterless) "Go" [] [] .empty).1.result =
        .ok (some (.bool false)) ∧
      (Invoker.compile parameterless (.ofOpenGeneric (both [] [] rfl) (generic [] []))).isOk ∧
      ¬∃ body, handle.RunsInstance parameterless (.ofRegistry parameterless) "Go"
        (both [] [] rfl) (generic [] []) [] (constant true) body [] .empty := by
  refine ⟨rfl, rfl, rfl, rfl, ?_⟩
  rintro ⟨body, hruns⟩
  obtain ⟨part, -, hbody⟩ := hruns.part
  obtain ⟨params, hparams, hcall⟩ := hruns.byName
  obtain rfl : params = [] := List.map_eq_nil_iff.1 hparams
  have hinstance : body = ⟨fun _ frame store => ⟨.ok (some (.bool true)), frame, store⟩⟩ := by
    simp only [constant, Scoped.at?, Option.bind_some] at hbody
    split at hbody
    · exact (Option.some.inj hbody).symm
    · cases hbody
  subst hinstance
  have hresult := congrArg Invocation.result hcall
  cases hresult

end Handle

end Reflection
