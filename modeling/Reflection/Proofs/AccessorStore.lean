import Mathlib.Data.Finset.Card
import Reflection.Proofs.CacheHistory

/-!
# The store of accessors

After any history a cache holds exactly the accessors that the requests of the history got, one
per key (`AccessorCache.Holds.run`). One request either leaves the accessors alone or adds the one
that it got (`CacheRequest.apply_effect`).

Main statement: `accessorCache_appendOnly`. Accessors are never replaced or removed, two answers
are one accessor exactly when their keys agree, the size counts the keys, and every answer is what
compiling would have given.
-/

set_option autoImplicit false

namespace Reflection

/-- What a request does to the stored accessors, given what it got: nothing, or the addition of
the accessor that it got. -/
inductive CacheEffect (c : AccessorCache) :
    Option (AccessorKey × Stored Accessor) → AccessorCache → Prop
  | quiet {c' : AccessorCache} : c'.memo = c.memo → CacheEffect c none c'
  | hit {key : AccessorKey} {s : Stored Accessor} {c' : AccessorCache} :
      c.stored key = some s → c'.memo = c.memo → CacheEffect c (some (key, s)) c'
  | added {key : AccessorKey} {s : Stored Accessor} {c' : AccessorCache} :
      c.Added key s c' → CacheEffect c (some (key, s)) c'

theorem AccessorCache.Added.of_memo_eq {c d c' : AccessorCache} {key : AccessorKey}
    {s : Stored Accessor} (h : d.Added key s c') (hmemo : d.memo = c.memo) :
    c.Added key s c' := by
  refine ⟨?_, ?_, ?_⟩
  · rw [← stored_of_memo_eq hmemo]
    exact h.isNew
  · intro other
    rw [h.stored, stored_of_memo_eq hmemo]
  · rw [h.size, size_of_memo_eq hmemo]

namespace CacheRequest

/-- Looking up tables and calls touches no accessor. -/
theorem asks_memo (q : CacheRequest) (c : AccessorCache) : (q.asks c).2.memo = c.memo := by
  cases q with
  | accessor a => rfl
  | accessorOfKind kind d => rfl
  | memberTable type => exact c.memo_memberTable type
  | resolveCall table name args => rfl
  | get h name store => exact c.memo_memberTable h.target.type
  | set h name v store => exact c.memo_memberTable h.target.type
  | call h name args store => exact c.memo_memberTable h.target.type
  | callGeneric h name typeArgs args store => exact c.memo_memberTable h.target.type

theorem apply_effect (q : CacheRequest) (c : AccessorCache) :
    CacheEffect c (q.obtained c) (q.apply c) := by
  have hmemo := q.asks_memo c
  rw [q.apply_eq c, obtained]
  cases (q.asks c).1 with
  | none => exact .quiet hmemo
  | some a =>
    have hanswer := a.ask_answered (q.asks c).2
    simp only [Option.bind_some, Option.elim_some]
    generalize a.ask (q.asks c).2 = answer at hanswer ⊢
    cases hanswer with
    | hit hstored hkept =>
      exact .hit (by rwa [AccessorCache.stored_of_memo_eq hmemo] at hstored) (hkept.trans hmemo)
    | failed _ _ hkept => exact .quiet (hkept.trans hmemo)
    | added _ hadded => exact .added (hadded.of_memo_eq hmemo)

end CacheRequest

namespace AccessorCache

/-- The cache holds exactly the accessors of a log, and its size counts their keys. -/
structure Holds (c : AccessorCache) (log : List (AccessorKey × Stored Accessor)) : Prop where
  stored_iff : ∀ key s, c.stored key = some s ↔ (key, s) ∈ log
  size_eq : c.size = (log.map Prod.fst).toFinset.card

theorem holds_ofRegistry (r : Registry) : (ofRegistry r).Holds [] := by
  refine ⟨?_, rfl⟩
  intro key s
  cases key <;> simp [stored, memo, ofRegistry, Memo.rename, Memo.empty, Memo.find?,
    Memo.findFrom, AccessorKey.kind]

theorem toFinset_keys_append (log : List (AccessorKey × Stored Accessor)) (key : AccessorKey)
    (s : Stored Accessor) :
    ((log ++ [(key, s)]).map Prod.fst).toFinset = insert key (log.map Prod.fst).toFinset := by
  rw [List.map_append, List.toFinset_append, Finset.union_comm]
  rfl

namespace Holds

variable {c : AccessorCache} {log : List (AccessorKey × Stored Accessor)}

theorem stored_eq_none_iff (h : c.Holds log) (key : AccessorKey) :
    c.stored key = none ↔ key ∉ log.map Prod.fst := by
  constructor
  · intro hnone hmem
    obtain ⟨⟨key, s⟩, hs, rfl⟩ := List.mem_map.1 hmem
    rw [(h.stored_iff key s).2 hs] at hnone
    cases hnone
  · intro hmem
    cases hs : c.stored key with
    | none => rfl
    | some s => exact absurd (List.mem_map_of_mem ((h.stored_iff key s).1 hs)) hmem

/-- One request lengthens the log by what it gets. -/
theorem apply (h : c.Holds log) (q : CacheRequest) :
    (q.apply c).Holds (log ++ (q.obtained c).toList) := by
  have heffect := q.apply_effect c
  generalize q.obtained c = got at heffect ⊢
  generalize q.apply c = c' at heffect ⊢
  cases heffect with
  | quiet hmemo =>
    refine ⟨?_, ?_⟩
    · intro key s
      rw [stored_of_memo_eq hmemo, h.stored_iff]
      simp
    · rw [size_of_memo_eq hmemo, h.size_eq]
      simp
  | @hit key s _ hstored hmemo =>
    -- The accessor is in the log already, so neither the pairs nor the keys become more.
    have hmem : (key, s) ∈ log := (h.stored_iff key s).1 hstored
    refine ⟨?_, ?_⟩
    · intro other t
      rw [stored_of_memo_eq hmemo, h.stored_iff, Option.toList_some, List.mem_append,
        List.mem_singleton]
      constructor
      · intro hlog
        exact .inl hlog
      · rintro (hlog | heq)
        · exact hlog
        · rw [heq]
          exact hmem
    · have hkey : key ∈ (log.map Prod.fst).toFinset :=
        List.mem_toFinset.2 (List.mem_map_of_mem hmem)
      rw [size_of_memo_eq hmemo, h.size_eq, Option.toList_some, toFinset_keys_append,
        Finset.insert_eq_of_mem hkey]
  | @added key s _ hadded =>
    -- The key is in no pair of the log, so it counts.
    have hnew : key ∉ log.map Prod.fst := (h.stored_eq_none_iff key).1 hadded.isNew
    refine ⟨?_, ?_⟩
    · intro other t
      rw [hadded.stored, Option.toList_some, List.mem_append, List.mem_singleton]
      split
      · rename_i hother
        subst hother
        have hnot : (other, t) ∉ log := fun hmem => hnew (List.mem_map_of_mem hmem)
        simp [hnot, eq_comm]
      · rename_i hother
        simp [h.stored_iff, hother]
    · have hkey : key ∉ (log.map Prod.fst).toFinset := fun hmem =>
        hnew (List.mem_toFinset.1 hmem)
      rw [hadded.size, h.size_eq, Option.toList_some, toFinset_keys_append,
        Finset.card_insert_of_notMem hkey]

/-- Every history lengthens the log by all that it gets. -/
theorem run (h : c.Holds log) (history : List CacheRequest) :
    (c.run history).Holds (log ++ c.log history) := by
  induction history generalizing c log with
  | nil => simpa [AccessorCache.run, AccessorCache.log] using h
  | cons q history ih =>
    have hrest := ih (h.apply q)
    rwa [List.append_assoc] at hrest

end Holds

/-! ## Append only -/

/-- Both caches store the same accessors. -/
def SameAccessors (c c' : AccessorCache) : Prop :=
  (∀ key, c'.stored key = c.stored key) ∧ c'.size = c.size

/-- A cache is an append-only store of the accessors in a log, and whatever it is asked for next,
it answers as compiling for its registry does. -/
structure AppendOnly (c : AccessorCache) (r : Registry)
    (log : List (AccessorKey × Stored Accessor)) : Prop where
  /-- Later requests neither replace nor remove an accessor. -/
  kept : ∀ later key s, c.stored key = some s → (c.run later).stored key = some s
  /-- The log is what is stored. -/
  stored_iff : ∀ key s, c.stored key = some s ↔ (key, s) ∈ log
  /-- Two answers of one kind are in the same slot exactly when their keys are equal. -/
  slot_eq_iff : ∀ x ∈ log, ∀ y ∈ log, x.1.kind = y.1.kind → (x.2.slot = y.2.slot ↔ x.1 = y.1)
  /-- Answers for one key are one accessor. -/
  eq_of_key_eq : ∀ x ∈ log, ∀ y ∈ log, x.1 = y.1 → x.2 = y.2
  /-- The size counts the keys whose accessors were obtained. A key says what kind it is of. -/
  size_eq : c.size = (log.map Prod.fst).toFinset.card
  /-- A request that gets no accessor changes none, whether it fails or asks for something else. -/
  unobtained : ∀ q : CacheRequest, q.obtained c = none → c.SameAccessors (q.apply c)
  failed : ∀ (a : AccessorRequest) e, (a.ask c).1 = .error e → c.SameAccessors (a.ask c).2
  failedOfKind : ∀ kind d e, (c.accessor kind d).1 = .error e →
    c.SameAccessors (c.accessor kind d).2
  memberTable : ∀ type, c.SameAccessors (c.memberTable type).2
  resolveCall : ∀ table name args, c.SameAccessors (c.resolveCall table name args).2
  /-- An accessor request gives the error of compiling, or an accessor that is bound to the same
  member and metadata. -/
  ask : ∀ a : AccessorRequest,
    (a.ask c).1.map (fun s => s.item.bound) = (a.compile r).map Accessor.bound
  /-- A request by kind first refuses to construct with anything but a constructor. -/
  askOfKind : ∀ kind d, (c.accessor kind d).1.map (fun s => s.item.bound) =
    if kind = .construct ∧ d.kind ≠ .constructor then .error d.notFound
    else (r.compile kind d).map Accessor.bound
  /-- So does the request for an accessor inside any other request. -/
  asks : ∀ (q : CacheRequest) a, (q.asks c).1 = some a →
    (a.ask (q.asks c).2).1.map (fun s => s.item.bound) = (a.compile r).map Accessor.bound

theorem sameAccessors_of_memo_eq {c c' : AccessorCache} (h : c'.memo = c.memo) :
    c.SameAccessors c' :=
  ⟨stored_of_memo_eq h, size_of_memo_eq h⟩

theorem sameAccessors_of_obtained_eq_none {c : AccessorCache} {q : CacheRequest}
    (h : q.obtained c = none) : c.SameAccessors (q.apply c) := by
  have heffect := q.apply_effect c
  rw [h] at heffect
  cases heffect with
  | quiet hmemo => exact sameAccessors_of_memo_eq hmemo

theorem sameAccessors_of_ask_error {c : AccessorCache} {a : AccessorRequest} {e : AccessError}
    (h : (a.ask c).1 = .error e) : c.SameAccessors (a.ask c).2 := by
  have hanswer := a.ask_answered c
  generalize a.ask c = answer at h hanswer ⊢
  cases hanswer with
  | hit => cases h
  | failed _ _ hmemo => exact sameAccessors_of_memo_eq hmemo
  | added => cases h

/-- One request keeps every accessor that is there. -/
theorem stored_apply {c : AccessorCache} {key : AccessorKey} {s : Stored Accessor}
    (h : c.stored key = some s) (q : CacheRequest) : (q.apply c).stored key = some s := by
  have heffect := q.apply_effect c
  generalize q.obtained c = got at heffect
  generalize q.apply c = c' at heffect ⊢
  cases heffect with
  | quiet hmemo => rwa [stored_of_memo_eq hmemo]
  | hit _ hmemo => rwa [stored_of_memo_eq hmemo]
  | @added other t _ hadded =>
    have hne : key ≠ other := by
      rintro rfl
      rw [hadded.isNew] at h
      cases h
    rwa [hadded.stored, if_neg hne]

theorem stored_run {c : AccessorCache} {key : AccessorKey} {s : Stored Accessor}
    (h : c.stored key = some s) (later : List CacheRequest) :
    (c.run later).stored key = some s := by
  induction later generalizing c with
  | nil => exact h
  | cons q later ih => exact ih (stored_apply h q)

namespace Sound

variable {c : AccessorCache} {r : Registry}

theorem accessor_bound (h : c.Sound r) (kind : AccessKind) (d : MemberDescriptor) :
    (c.accessor kind d).1.map (fun s => s.item.bound) =
      if kind = .construct ∧ d.kind ≠ .constructor then .error d.notFound
      else (r.compile kind d).map Accessor.bound := by
  rw [accessor_eq]
  cases kind with
  | construct =>
    by_cases hd : d.kind = .constructor
    · rw [if_neg (fun hand => hand.2 hd), AccessorRequest.ofKind?, if_pos hd]
      exact h.ask_bound (.constructor d.declaring)
    · rw [if_pos ⟨rfl, hd⟩, AccessorRequest.ofKind?, if_neg hd]
      rfl
  | get => exact h.ask_bound (.getter d)
  | set => exact h.ask_bound (.setter d)
  | invoke => exact h.ask_bound (.invoker d)

end Sound

namespace Holds

variable {c : AccessorCache} {log : List (AccessorKey × Stored Accessor)}

theorem eq_of_key_eq (h : c.Holds log) {x y : AccessorKey × Stored Accessor} (hx : x ∈ log)
    (hy : y ∈ log) (hkey : x.1 = y.1) : x.2 = y.2 := by
  have hs := (h.stored_iff x.1 x.2).2 hx
  rw [hkey, (h.stored_iff y.1 y.2).2 hy] at hs
  exact (Option.some.inj hs).symm

theorem slot_eq_iff (h : c.Holds log) {x y : AccessorKey × Stored Accessor} (hx : x ∈ log)
    (hy : y ∈ log) (hkind : x.1.kind = y.1.kind) : x.2.slot = y.2.slot ↔ x.1 = y.1 := by
  constructor
  · exact eq_of_slot_eq ((h.stored_iff x.1 x.2).2 hx) ((h.stored_iff y.1 y.2).2 hy) hkind
  · intro hkey
    rw [h.eq_of_key_eq hx hy hkey]

end Holds

theorem sameAccessors_of_accessor_error {c : AccessorCache} {kind : AccessKind}
    {d : MemberDescriptor} {e : AccessError} (h : (c.accessor kind d).1 = .error e) :
    c.SameAccessors (c.accessor kind d).2 := by
  rw [accessor_eq] at h ⊢
  cases hkind : AccessorRequest.ofKind? kind d with
  | none => exact sameAccessors_of_memo_eq rfl
  | some a =>
    rw [hkind] at h
    exact sameAccessors_of_ask_error h

end AccessorCache

/-- After every history, a cache is an append-only store of what the history got from it, and
agrees with compiling for its registry. -/
theorem accessorCache_appendOnly (r : Registry) (history : List CacheRequest) :
    ((AccessorCache.ofRegistry r).run history).AppendOnly r
      ((AccessorCache.ofRegistry r).log history) := by
  have hsound := (AccessorCache.sound_ofRegistry r).run history
  have hholds := (AccessorCache.holds_ofRegistry r).run history
  rw [List.nil_append] at hholds
  exact {
    kept := fun later _ _ hs => AccessorCache.stored_run hs later
    stored_iff := hholds.stored_iff
    slot_eq_iff := fun _ hx _ hy => hholds.slot_eq_iff hx hy
    eq_of_key_eq := fun _ hx _ hy => hholds.eq_of_key_eq hx hy
    size_eq := hholds.size_eq
    unobtained := fun _ => AccessorCache.sameAccessors_of_obtained_eq_none
    failed := fun _ _ => AccessorCache.sameAccessors_of_ask_error
    failedOfKind := fun _ _ _ => AccessorCache.sameAccessors_of_accessor_error
    memberTable := fun type =>
      AccessorCache.sameAccessors_of_memo_eq (AccessorCache.memo_memberTable _ type)
    resolveCall := fun _ _ _ => AccessorCache.sameAccessors_of_memo_eq rfl
    ask := hsound.ask_bound
    askOfKind := hsound.accessor_bound
    asks := fun q a _ => (hsound.asks q).ask_bound a }

end Reflection
