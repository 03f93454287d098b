import Reflection.Dispatch.Handle
import Reflection.Proofs.Compilation
import Reflection.Proofs.Memo

/-!
# Histories of a cache

A `CacheRequest` is anything that a cache can be asked for, and `AccessorCache.run` answers a list
of them. Whatever a request is about, it first reads member tables and remembered calls and then
asks for at most one accessor (`CacheRequest.asks`, `CacheRequest.apply_eq`).

* `AccessorRequest.ask_answered`: all that asking for an accessor can do.
* `AccessorCache.Sound`: accessors and tables of a cache were made from its registry.
* `AccessorCache.Sound.run`: every history keeps a cache sound.
-/

set_option autoImplicit false

namespace Reflection

namespace AccessorCache

/-- The accessors of one kind, in their slots. -/
def memo (c : AccessorCache) : AccessKind → Memo AccessorKey Accessor
  | .get => c.getters.rename .getter .getter
  | .set => c.setters.rename .setter .setter
  | .invoke => c.invokers.rename .invoker .invoker
  | .construct => c.constructors.rename .constructor .constructor

/-- The stored accessor of a key. -/
def stored (c : AccessorCache) (key : AccessorKey) : Option (Stored Accessor) :=
  (c.memo key.kind).find? key

theorem size_eq_memo (c : AccessorCache) :
    c.size = (c.memo .get).size + (c.memo .set).size + (c.memo .invoke).size +
      (c.memo .construct).size := by
  simp only [size, memo, Memo.size_rename]

/-- Accessors of one kind that are stored under different keys are in different slots. -/
theorem eq_of_slot_eq {c : AccessorCache} {key other : AccessorKey} {s t : Stored Accessor}
    (hs : c.stored key = some s) (ht : c.stored other = some t) (hkind : key.kind = other.kind)
    (h : s.slot = t.slot) : key = other := by
  rw [stored, hkind] at hs
  exact Memo.eq_of_slot_eq hs ht h

theorem stored_of_memo_eq {c c' : AccessorCache} (h : c'.memo = c.memo) (key : AccessorKey) :
    c'.stored key = c.stored key := by
  rw [stored, stored, h]

theorem size_of_memo_eq {c c' : AccessorCache} (h : c'.memo = c.memo) : c'.size = c.size := by
  rw [size_eq_memo, size_eq_memo, h]

/-- Asking for a member table changes the tables only. -/
theorem memberTable_snd (c : AccessorCache) (type : TypeId) :
    ∃ tables, (c.memberTable type).2 = { c with tables := tables } := by
  rw [memberTable]
  cases c.tables.find? type with
  | some s => exact ⟨c.tables, rfl⟩
  | none => exact ⟨_, rfl⟩

theorem memo_memberTable (c : AccessorCache) (type : TypeId) :
    (c.memberTable type).2.memo = c.memo := by
  obtain ⟨tables, htables⟩ := c.memberTable_snd type
  rw [htables]
  rfl

theorem calls_memberTable (c : AccessorCache) (type : TypeId) :
    (c.memberTable type).2.calls = c.calls := by
  obtain ⟨tables, htables⟩ := c.memberTable_snd type
  rw [htables]

/-- One cache holds the accessors of another one and one more. -/
structure Added (c : AccessorCache) (key : AccessorKey) (s : Stored Accessor)
    (c' : AccessorCache) : Prop where
  isNew : c.stored key = none
  stored : ∀ other, c'.stored other = if other = key then some s else c.stored other
  size : c'.size = c.size + 1

/-- Pushing an item on the memo of its kind adds one accessor. -/
theorem added_of_push {c c' : AccessorCache} {key : AccessorKey} {item : Accessor}
    (hnew : c.stored key = none)
    (hmemo : ∀ kind, c'.memo kind =
      if kind = key.kind then (c.memo key.kind).push key item else c.memo kind) :
    c.Added key ⟨(c.memo key.kind).size, item⟩ c' := by
  refine ⟨hnew, ?_, ?_⟩
  · intro other
    rw [stored, hmemo]
    -- Another key of the same kind is looked up in the longer memo, but not at its end.
    by_cases hother : other = key
    · subst hother
      rw [if_pos rfl, if_pos rfl]
      exact Memo.find?_push_self item hnew
    · rw [if_neg hother, stored]
      split
      · rename_i hkind
        rw [hkind]
        exact Memo.find?_push_of_ne _ item hother
      · rfl
  · rw [size_eq_memo, size_eq_memo]
    simp only [hmemo]
    cases key <;> simp [AccessorKey.kind, Memo.size_push] <;> omega

end AccessorCache

/-! ## One accessor -/

namespace AccessorRequest

/-- Asks a cache for the accessor. -/
def ask (c : AccessorCache) :
    AccessorRequest → Except AccessError (Stored Accessor) × AccessorCache
  | getter d => (c.getter d).map (Except.map (.map .getter)) id
  | setter d => (c.setter d).map (Except.map (.map .setter)) id
  | invoker d => (c.invoker d).map (Except.map (.map .invoker)) id
  | constructor type => (c.constructor type).map (Except.map (.map .constructor)) id

/-- The request for an accessor of one kind for a member. Only the descriptor of a constructor
asks for one. -/
def ofKind? (kind : AccessKind) (d : MemberDescriptor) : Option AccessorRequest :=
  match kind with
  | .get => some (getter d)
  | .set => some (setter d)
  | .invoke => some (invoker d)
  | .construct => if d.kind = .constructor then some (constructor d.declaring) else none

/-- Asking goes to the memo of the kind, and to nothing else. -/
theorem ask_eq_getOrMake (a : AccessorRequest) (c : AccessorCache) :
    let answer := (c.memo a.key.kind).getOrMake a.key (a.compile c.registry)
    (a.ask c).1 = answer.1 ∧
      (∀ kind, (a.ask c).2.memo kind = if kind = a.key.kind then answer.2 else c.memo kind) ∧
      (a.ask c).2.registry = c.registry ∧ (a.ask c).2.tables = c.tables ∧
      (a.ask c).2.calls = c.calls := by
  intro answer
  -- The memo of the kind is a renamed one, and the memos of the other kinds stay as they are.
  cases a with
  | getter d =>
    have hanswer := Memo.getOrMake_rename (fun _ _ => AccessorKey.getter.inj) Accessor.getter
      c.getters d.key (Getter.compile c.registry d)
    refine ⟨(congrArg Prod.fst hanswer).symm, ?_, rfl, rfl, rfl⟩
    intro kind
    cases kind with
    | get => exact (congrArg Prod.snd hanswer).symm
    | _ => rfl
  | setter d =>
    have hanswer := Memo.getOrMake_rename (fun _ _ => AccessorKey.setter.inj) Accessor.setter
      c.setters d.key (Setter.compile c.registry d)
    refine ⟨(congrArg Prod.fst hanswer).symm, ?_, rfl, rfl, rfl⟩
    intro kind
    cases kind with
    | set => exact (congrArg Prod.snd hanswer).symm
    | _ => rfl
  | invoker d =>
    have hanswer := Memo.getOrMake_rename (fun _ _ => AccessorKey.invoker.inj) Accessor.invoker
      c.invokers d.key (Invoker.compile c.registry d)
    refine ⟨(congrArg Prod.fst hanswer).symm, ?_, rfl, rfl, rfl⟩
    intro kind
    cases kind with
    | invoke => exact (congrArg Prod.snd hanswer).symm
    | _ => rfl
  | constructor type =>
    have hanswer := Memo.getOrMake_rename (fun _ _ => AccessorKey.constructor.inj)
      Accessor.constructor c.constructors type (Constructor.compile c.registry type)
    refine ⟨(congrArg Prod.fst hanswer).symm, ?_, rfl, rfl, rfl⟩
    intro kind
    cases kind with
    | construct => exact (congrArg Prod.snd hanswer).symm
    | _ => rfl

theorem ask_registry (a : AccessorRequest) (c : AccessorCache) :
    (a.ask c).2.registry = c.registry :=
  (a.ask_eq_getOrMake c).2.2.1

theorem ask_tables (a : AccessorRequest) (c : AccessorCache) : (a.ask c).2.tables = c.tables :=
  (a.ask_eq_getOrMake c).2.2.2.1

theorem ask_calls (a : AccessorRequest) (c : AccessorCache) : (a.ask c).2.calls = c.calls :=
  (a.ask_eq_getOrMake c).2.2.2.2

/-- What comes of asking: the stored accessor if there is one, else what compiling gives, and a
new accessor is the only change. -/
inductive Answered (a : AccessorRequest) (c : AccessorCache) :
    Except AccessError (Stored Accessor) × AccessorCache → Prop
  | hit {s : Stored Accessor} {c' : AccessorCache} : c.stored a.key = some s →
      c'.memo = c.memo → Answered a c (.ok s, c')
  | failed {e : AccessError} {c' : AccessorCache} : c.stored a.key = none →
      a.compile c.registry = .error e → c'.memo = c.memo → Answered a c (.error e, c')
  | added {s : Stored Accessor} {c' : AccessorCache} : a.compile c.registry = .ok s.item →
      c.Added a.key s c' → Answered a c (.ok s, c')

theorem ask_answered (a : AccessorRequest) (c : AccessorCache) : Answered a c (a.ask c) := by
  obtain ⟨hresult, hmemo, -⟩ := a.ask_eq_getOrMake c
  generalize a.ask c = answer at hresult hmemo ⊢
  obtain ⟨result, c'⟩ := answer
  subst hresult
  have hsame : ((c.memo a.key.kind).getOrMake a.key (a.compile c.registry)).2 =
      c.memo a.key.kind → c'.memo = c.memo := by
    intro hkept
    funext kind
    rw [hmemo kind, hkept]
    split
    · rename_i hkind
      rw [hkind]
    · rfl
  -- A memo that is given back as it was leaves all memos as they were.
  rcases (c.memo a.key.kind).getOrMake_cases a.key (a.compile c.registry) with
    ⟨s, hfind, hget⟩ | ⟨e, hfind, he, hget⟩ | ⟨item, hfind, hitem, hget⟩
  · rw [hget] at hsame ⊢
    exact .hit hfind (hsame rfl)
  · rw [hget] at hsame ⊢
    exact .failed hfind he (hsame rfl)
  · rw [hget] at hmemo ⊢
    exact .added hitem (AccessorCache.added_of_push hfind hmemo)

end AccessorRequest

/-- The accessor of a kind is one of the four requests, or refused. -/
theorem AccessorCache.accessor_eq (c : AccessorCache) (kind : AccessKind)
    (d : MemberDescriptor) :
    c.accessor kind d =
      (AccessorRequest.ofKind? kind d).elim (.error d.notFound, c) fun a => a.ask c := by
  cases kind with
  | construct =>
    by_cases hd : d.kind = .constructor
    · simp only [AccessorCache.accessor, AccessorRequest.ofKind?, if_pos hd]
      rfl
    · simp only [AccessorCache.accessor, AccessorRequest.ofKind?, if_neg hd]
      rfl
  | _ => rfl

/-! ## Requests and histories -/

/-- Anything that a cache can be asked for: an accessor, an accessor by its kind, a member table,
the choice of an overload, or access by name through a handle. -/
inductive CacheRequest where
  | accessor (a : AccessorRequest)
  | accessorOfKind (kind : AccessKind) (d : MemberDescriptor)
  | memberTable (type : TypeId)
  | resolveCall (table : MemberTable) (name : String) (args : List Value)
  | get (h : Handle) (name : String) (store : Store)
  | set (h : Handle) (name : String) (v : Value) (store : Store)
  | call (h : Handle) (name : String) (args : List Value) (store : Store)
  | callGeneric (h : Handle) (name : String) (typeArgs : List TypeRef) (args : List Value)
      (store : Store)

namespace CacheRequest

/-- The cache after a request. -/
def apply (c : AccessorCache) : CacheRequest → AccessorCache
  | accessor a => (a.ask c).2
  | accessorOfKind kind d => (c.accessor kind d).2
  | memberTable type => (c.memberTable type).2
  | resolveCall table name args => (c.resolveCall table name args).2
  | get h name store => (h.get c name store).2
  | set h name v store => (h.set c name v store).2
  | call h name args store => (h.call c name args store).2
  | callGeneric h name typeArgs args store => (h.callGeneric c name typeArgs args store).2

/-- The accessor that a request asks for, if it gets so far, and the cache that is asked: the one
after the member tables and calls that the request looks up first. -/
def asks (c : AccessorCache) : CacheRequest → Option AccessorRequest × AccessorCache
  | accessor a => (some a, c)
  | accessorOfKind kind d => (AccessorRequest.ofKind? kind d, c)
  | memberTable type => (none, (c.memberTable type).2)
  | resolveCall table name args => (none, (c.resolveCall table name args).2)
  | get h name _ => (((h.table c).1.dataMember? name).map .getter, (h.table c).2)
  | set h name _ _ => (((h.table c).1.dataMember? name).map .setter, (h.table c).2)
  | call h name args _ =>
    let choice := (h.table c).2.resolveCall (h.table c).1 name args
    (choice.1.toOption.map .invoker, choice.2)
  | callGeneric h name typeArgs _ _ =>
    let closed := ((h.table c).1.generic? name).bind fun openMethod =>
      ((h.table c).2.registry.closeGeneric openMethod typeArgs).toOption
    (closed.map .invoker, (h.table c).2)

/-- The accessor that a request gets, with its key. -/
def obtained (c : AccessorCache) (q : CacheRequest) : Option (AccessorKey × Stored Accessor) :=
  (q.asks c).1.bind fun a => (a.ask (q.asks c).2).1.toOption.map fun s => (a.key, s)

/-- A request changes what it looks up, and then what its one accessor request changes. -/
theorem apply_eq (q : CacheRequest) (c : AccessorCache) :
    q.apply c = (q.asks c).1.elim (q.asks c).2 fun a => (a.ask (q.asks c).2).2 := by
  cases q with
  | accessor a => rfl
  | accessorOfKind kind d =>
    rw [apply, AccessorCache.accessor_eq, asks]
    cases AccessorRequest.ofKind? kind d <;> rfl
  | memberTable type => rfl
  | resolveCall table name args => rfl
  | get h name store =>
    simp only [apply, asks, Handle.get]
    cases (h.table c).1.dataMember? name with
    | none => rfl
    | some d =>
      simp only [Option.map_some, Option.elim_some, AccessorRequest.ask, Prod.map_snd, id]
      cases (h.table c).2.getter d with
      | mk result c' => cases result <;> rfl
  | set h name v store =>
    simp only [apply, asks, Handle.set]
    cases (h.table c).1.dataMember? name with
    | none => rfl
    | some d =>
      simp only [Option.map_some, Option.elim_some, AccessorRequest.ask, Prod.map_snd, id]
      cases (h.table c).2.setter d with
      | mk result c' => cases result <;> rfl
  | call h name args store =>
    simp only [apply, asks, Handle.call]
    cases (h.table c).2.resolveCall (h.table c).1 name args with
    | mk choice c' =>
      cases choice with
      | error e => rfl
      | ok d =>
        simp only [Handle.invoke, Except.toOption, Option.map_some, Option.elim_some,
          AccessorRequest.ask, Prod.map_snd, id]
        cases c'.invoker d with
        | mk result c'' => cases result <;> rfl
  | callGeneric h name typeArgs args store =>
    simp only [apply, asks, Handle.callGeneric]
    cases (h.table c).1.generic? name with
    | none => rfl
    | some openMethod =>
      simp only [Option.bind_some]
      cases (h.table c).2.registry.closeGeneric openMethod typeArgs with
      | error e => rfl
      | ok d =>
        simp only [Handle.invoke, Except.toOption, Option.map_some, Option.elim_some,
          AccessorRequest.ask, Prod.map_snd, id]
        cases (h.table c).2.invoker d with
        | mk result c' => cases result <;> rfl

end CacheRequest

namespace AccessorCache

/-- The cache after a list of requests. -/
def run (c : AccessorCache) : List CacheRequest → AccessorCache
  | [] => c
  | q :: history => run (q.apply c) history

/-- The accessors that a list of requests gets, with their keys, the first one first. -/
def log (c : AccessorCache) : List CacheRequest → List (AccessorKey × Stored Accessor)
  | [] => []
  | q :: history => (q.obtained c).toList ++ log (q.apply c) history

/-! ## Soundness -/

/-- A cache belongs to a registry: its member tables were built from it, and each of its accessors
was compiled for it, from some request of the key that the accessor is stored under. -/
structure Sound (c : AccessorCache) (r : Registry) : Prop where
  registry : c.registry = r
  tables : ∀ type s, c.tables.find? type = some s → s.item = .build r type
  accessors : ∀ key s, c.stored key = some s →
    ∃ a : AccessorRequest, a.key = key ∧ a.compile r = .ok s.item

theorem sound_ofRegistry (r : Registry) : (ofRegistry r).Sound r := by
  refine ⟨rfl, ?_, ?_⟩
  · intro type s h
    cases h
  · intro key s h
    cases key <;> cases h

namespace Sound

variable {c : AccessorCache} {r : Registry}

/-- The member table of a type is the one of the registry, whether it was stored or not. -/
theorem memberTable_fst (h : c.Sound r) (type : TypeId) :
    (c.memberTable type).1 = .build r type := by
  rw [AccessorCache.memberTable]
  cases hfind : c.tables.find? type with
  | some s => exact h.tables type s hfind
  | none =>
    simp only [Memo.insert_of_find?_eq_none _ hfind]
    rw [h.registry]

theorem hasTable (h : c.Sound r) {type : TypeId} (hend : r.Ends type) : c.HasTable type :=
  .inr (h.registry.symm ▸ hend)

theorem memberTable (h : c.Sound r) (type : TypeId) : (c.memberTable type).2.Sound r := by
  rw [AccessorCache.memberTable]
  cases hfind : c.tables.find? type with
  | some s => exact h
  | none =>
    refine ⟨h.registry, ?_, h.accessors⟩
    intro other s hs
    simp only [Memo.insert_of_find?_eq_none _ hfind] at hs
    by_cases hother : other = type
    · subst hother
      rw [Memo.find?_push_self _ hfind, Option.some.injEq] at hs
      rw [← hs, h.registry]
    · rw [Memo.find?_push_of_ne _ _ hother] at hs
      exact h.tables other s hs

theorem resolveCall (h : c.Sound r) (table : MemberTable) (name : String) (args : List Value) :
    (c.resolveCall table name args).2.Sound r :=
  ⟨h.registry, h.tables, h.accessors⟩

/-- Asking adds at most what was just compiled. -/
theorem ask (h : c.Sound r) (a : AccessorRequest) : (a.ask c).2.Sound r := by
  refine ⟨(a.ask_registry c).trans h.registry, ?_, ?_⟩
  · rw [a.ask_tables c]
    exact h.tables
  · intro key s hs
    have hanswer := a.ask_answered c
    generalize a.ask c = answer at hanswer hs
    cases hanswer with
    | hit _ hmemo => exact h.accessors key s (by rwa [stored_of_memo_eq hmemo] at hs)
    | failed _ _ hmemo => exact h.accessors key s (by rwa [stored_of_memo_eq hmemo] at hs)
    | added hcompiled hadded =>
      rw [hadded.stored] at hs
      split at hs
      · rename_i hkey
        cases hs
        exact ⟨a, hkey.symm, h.registry ▸ hcompiled⟩
      · exact h.accessors key s hs

/-- The accessor that is given was compiled from a descriptor of the same key. -/
theorem compiled_of_ask (h : c.Sound r) {a : AccessorRequest} {s : Stored Accessor}
    (hs : (a.ask c).1 = .ok s) :
    ∃ first : AccessorRequest, first.key = a.key ∧ first.compile r = .ok s.item := by
  have hanswer := a.ask_answered c
  generalize a.ask c = answer at hanswer hs
  cases hanswer with
  | hit hstored _ =>
    cases hs
    exact h.accessors a.key s hstored
  | failed => cases hs
  | added hcompile _ =>
    cases hs
    rw [h.registry] at hcompile
    exact ⟨a, rfl, hcompile⟩

/-- A request that fails was compiled just now. -/
theorem compile_of_ask_error (h : c.Sound r) {a : AccessorRequest} {e : AccessError}
    (he : (a.ask c).1 = .error e) : a.compile r = .error e := by
  have hanswer := a.ask_answered c
  generalize a.ask c = answer at hanswer he
  cases hanswer with
  | hit => cases he
  | failed _ hcompile _ =>
    cases he
    rwa [h.registry] at hcompile
  | added => cases he

/-- All that can come of asking for an accessor by a descriptor: compiling fails and so does the
request, or the accessor was compiled from some descriptor of the same key. The requests for
getters, setters and invokers are `make`, and `wrap` makes accessors of what they give. -/
theorem compile_cases_of_ask (h : c.Sound r) {α : Type} {wrap : α → Accessor}
    (make : MemberDescriptor → AccessorRequest) (hwrap : Function.Injective wrap)
    (hmake : ∀ first d, first.key = (make d).key → ∃ e, first = make e ∧ e.key = d.key)
    {compile : MemberDescriptor → Except AccessError α}
    (hcompile : ∀ d, (make d).compile r = (compile d).map wrap) {d : MemberDescriptor}
    {result : Except AccessError (Stored α)}
    (hask : ((make d).ask c).1 = result.map (.map wrap)) :
    (∃ e, result = .error e ∧ compile d = .error e) ∨
      ∃ s first, result = .ok s ∧ first.key = d.key ∧ compile first = .ok s.item := by
  cases result with
  | error e =>
    have hfailed := h.compile_of_ask_error hask
    rw [hcompile] at hfailed
    refine .inl ⟨e, rfl, ?_⟩
    cases hfresh : compile d with
    | error e' =>
      rw [hfresh] at hfailed
      cases hfailed
      rfl
    | ok x =>
      rw [hfresh] at hfailed
      cases hfailed
  | ok s =>
    obtain ⟨first, hkey, hfirst⟩ := h.compiled_of_ask hask
    obtain ⟨e, rfl, hsame⟩ := hmake first d hkey
    refine .inr ⟨s, e, rfl, hsame, ?_⟩
    rw [hcompile] at hfirst
    cases hitem : compile e with
    | error e' =>
      rw [hitem] at hfirst
      cases hfirst
    | ok x =>
      rw [hitem] at hfirst
      rw [hwrap (Except.ok.inj hfirst)]

theorem getter_cases (h : c.Sound r) (d : MemberDescriptor) :
    (∃ e, (c.getter d).1 = .error e ∧ Getter.compile r d = .error e) ∨
      ∃ s first, (c.getter d).1 = .ok s ∧ first.key = d.key ∧
        Getter.compile r first = .ok s.item := by
  refine h.compile_cases_of_ask .getter (fun _ _ => Accessor.getter.inj) ?_
    (fun _ => rfl) rfl
  intro first d hkey
  cases first with
  | getter e => exact ⟨e, rfl, AccessorKey.getter.inj hkey⟩
  | _ => cases hkey

theorem setter_cases (h : c.Sound r) (d : MemberDescriptor) :
    (∃ e, (c.setter d).1 = .error e ∧ Setter.compile r d = .error e) ∨
      ∃ s first, (c.setter d).1 = .ok s ∧ first.key = d.key ∧
        Setter.compile r first = .ok s.item := by
  refine h.compile_cases_of_ask .setter (fun _ _ => Accessor.setter.inj) ?_
    (fun _ => rfl) rfl
  intro first d hkey
  cases first with
  | setter e => exact ⟨e, rfl, AccessorKey.setter.inj hkey⟩
  | _ => cases hkey

theorem invoker_cases (h : c.Sound r) (d : MemberDescriptor) :
    (∃ e, (c.invoker d).1 = .error e ∧ Invoker.compile r d = .error e) ∨
      ∃ s first, (c.invoker d).1 = .ok s ∧ first.key = d.key ∧
        Invoker.compile r first = .ok s.item := by
  refine h.compile_cases_of_ask .invoker (fun _ _ => Accessor.invoker.inj) ?_
    (fun _ => rfl) rfl
  intro first d hkey
  cases first with
  | invoker e => exact ⟨e, rfl, AccessorKey.invoker.inj hkey⟩
  | _ => cases hkey

/-- An accessor that is given is bound to what compiling the request would bind, although it may
have been compiled from another descriptor of the key. -/
theorem ask_bound (h : c.Sound r) (a : AccessorRequest) :
    (a.ask c).1.map (fun s => s.item.bound) = (a.compile r).map Accessor.bound := by
  cases hresult : (a.ask c).1 with
  | error e =>
    rw [h.compile_of_ask_error hresult]
    rfl
  | ok s =>
    obtain ⟨first, hkey, hfirst⟩ := h.compiled_of_ask hresult
    obtain ⟨x, hx, hbound⟩ := AccessorRequest.compile_of_key_eq hkey hfirst
    rw [hx]
    exact congrArg Except.ok hbound.symm

theorem asks (h : c.Sound r) (q : CacheRequest) : (q.asks c).2.Sound r := by
  cases q with
  | accessor a => exact h
  | accessorOfKind kind d => exact h
  | memberTable type => exact h.memberTable type
  | resolveCall table name args => exact h.resolveCall table name args
  | get target name store => exact h.memberTable target.target.type
  | set target name v store => exact h.memberTable target.target.type
  | call target name args store =>
    exact (h.memberTable target.target.type).resolveCall _ name args
  | callGeneric target name typeArgs args store => exact h.memberTable target.target.type

/-- One request keeps a cache sound. -/
theorem apply (h : c.Sound r) (q : CacheRequest) : (q.apply c).Sound r := by
  rw [q.apply_eq c]
  cases (q.asks c).1 with
  | none => exact h.asks q
  | some a => exact (h.asks q).ask a

/-- Every history keeps a cache sound. -/
theorem run (h : c.Sound r) (history : List CacheRequest) : (c.run history).Sound r := by
  induction history generalizing c with
  | nil => exact h
  | cons q history ih => exact ih (h.apply q)

end Sound

end AccessorCache

end Reflection
