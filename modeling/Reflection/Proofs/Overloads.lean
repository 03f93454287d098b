import Mathlib.Data.List.Forall2
import Reflection.Dispatch.Overload

/-!
# Scores and conversions

Choosing an overload and converting its arguments are two separate computations. They agree in one
direction: an argument that has a score converts (`TypeRef.exists_coerce_of_score?`), so the
arguments of a chosen overload all do (`forall₂_accepts_of_totalScore?`).

* `totalScore?_congr`: scores see an argument only through its type.
* `Leaders.leads_foldl`: the leaders are the overloads of the greatest total.
* `MemberTable.resolveCall_eq_ok_congr`: the choice sees arguments only through their types.
-/

set_option autoImplicit false

namespace Reflection

/-! ## Scores see types only -/

namespace Value

variable {v w : Value}

theorem isNull_congr (h : v.typeKey? = w.typeKey?) : v.isNull = w.isNull := by
  rw [Bool.eq_iff_iff, isNull_iff, isNull_iff, ← typeKey?_eq_none_iff, ← typeKey?_eq_none_iff, h]

theorem numKind?_congr (h : v.typeKey? = w.typeKey?) : v.numKind? = w.numKind? := by
  cases v <;> cases w <;> simp_all [typeKey?, numKind?]

theorem isSome_object?_congr (h : v.typeKey? = w.typeKey?) :
    v.object?.isSome = w.object?.isSome := by
  cases v <;> cases w <;> simp_all [typeKey?, object?]

end Value

namespace TypeRef

variable {v w : Value}

theorem acceptsByWidening_congr (type : TypeRef) (h : v.typeKey? = w.typeKey?) :
    type.acceptsByWidening v = type.acceptsByWidening w := by
  rw [acceptsByWidening.eq_def, acceptsByWidening.eq_def, Value.numKind?_congr h]

theorem inexactScore?_congr (type : TypeRef) (h : v.typeKey? = w.typeKey?) :
    type.inexactScore? v = type.inexactScore? w := by
  cases type with
  | any => rfl
  | anyObject =>
    have hobject := Value.isSome_object?_congr h
    unfold inexactScore?
    cases hv : v.object? <;> cases hw : w.object? <;> simp_all
  | nullable underlying =>
    simp only [inexactScore?, h, underlying.acceptsByWidening_congr h]
  | _ => simp only [inexactScore?, acceptsByWidening_congr _ h]

/-- The score of an argument depends on its type only. -/
theorem score?_congr (type : TypeRef) (h : v.typeKey? = w.typeKey?) :
    type.score? v = type.score? w := by
  rw [score?, score?, Value.isNull_congr h, h, type.inexactScore?_congr h]

end TypeRef

/-- So does the total of a list of arguments. -/
theorem totalScore?_congr (params : List ParamInfo) {args others : List Value}
    (h : args.map Value.typeKey? = others.map Value.typeKey?) :
    totalScore? params args = totalScore? params others := by
  induction params generalizing args others with
  | nil =>
    cases args <;> cases others
    · rfl
    · cases h
    · cases h
    · rfl
  | cons p params ih =>
    cases args with
    | nil =>
      cases others with
      | nil => rfl
      | cons => cases h
    | cons arg args =>
      cases others with
      | nil => cases h
      | cons other others =>
        obtain ⟨hfirst, hrest⟩ := List.cons.inj h
        have hscore : p.score? arg = p.score? other := by
          rw [ParamInfo.score?, ParamInfo.score?, p.type.score?_congr hfirst]
        rw [totalScore?, totalScore?, hscore, ih hrest]

/-! ## Arguments with a score convert -/

/-- An integer kind holds all that a narrower one holds. -/
theorem IntKind.holds_of_wider {narrow wide : IntKind} (h : narrow.wider.contains wide) {n : Int}
    (hn : narrow.Holds n) : wide.Holds n := by
  obtain ⟨hleast, hgreatest⟩ := hn
  refine ⟨?_, ?_⟩ <;> cases narrow <;> cases wide <;>
    simp [wider, least, greatest, isSigned, bits] at h hleast hgreatest ⊢ <;> omega

namespace TypeRef

variable {type : TypeRef} {arg : Value}

theorem coerce_nullable (underlying : TypeRef) (h : arg ≠ .null) :
    (nullable underlying).coerce arg = underlying.coerce arg := by
  cases arg <;> first | rfl | contradiction

/-- A value of exactly the declared type converts. -/
theorem exists_coerce_of_typeKey?_eq (h : arg.typeKey? = some type.key) :
    ∃ v, type.coerce arg = .ok v := by
  cases arg with
  | null => cases h
  | bool b =>
    obtain rfl : bool = type := key_injective (Option.some.inj h)
    exact ⟨_, rfl⟩
  | char c =>
    obtain rfl : char = type := key_injective (Option.some.inj h)
    exact ⟨_, rfl⟩
  | int n =>
    obtain rfl : number (.int n.kind) = type := key_injective (Option.some.inj h)
    exact ⟨.int n, by simp [coerce, Value.toNumber?, BoundedInt.ofInt?, n.holds]⟩
  | float x =>
    obtain rfl : number (.float x.kind) = type := key_injective (Option.some.inj h)
    exact ⟨.float (x.convert x.kind), rfl⟩
  | string s =>
    obtain rfl : string = type := key_injective (Option.some.inj h)
    exact ⟨_, rfl⟩
  | object o =>
    obtain rfl : shared o.type = type := key_injective (Option.some.inj h)
    exact ⟨.object ⟨o.address, o.type, o.type.name⟩, if_pos rfl⟩

/-- A number of a narrower kind converts. -/
theorem exists_coerce_of_acceptsByWidening (h : type.acceptsByWidening arg) :
    ∃ v, type.coerce arg = .ok v := by
  rw [acceptsByWidening.eq_def] at h
  split at h
  · rename_i wide narrow hnarrow
    cases arg with
    | int n =>
      obtain rfl := Option.some.inj hnarrow
      cases wide with
      | int kind =>
        have hholds := IntKind.holds_of_wider h n.holds
        exact ⟨.int ⟨kind, n.value, hholds⟩, by
          simp [coerce, Value.toNumber?, BoundedInt.ofInt?, hholds]⟩
      | float kind => exact ⟨_, rfl⟩
    | float x =>
      obtain rfl := Option.some.inj hnarrow
      cases wide with
      | int kind => simp [NumKind.widensTo] at h
      | float kind => exact ⟨_, rfl⟩
    | _ => cases hnarrow
  · cases h

/-- An argument that has a score converts to the declared type. -/
theorem exists_coerce_of_score? {n : Nat} (h : type.score? arg = some n) :
    ∃ v, type.coerce arg = .ok v := by
  rw [score?] at h
  split at h
  · rename_i hnull
    obtain rfl := Value.isNull_iff.1 hnull
    -- Null is a value of the two nullable classes only.
    split at h
    · rename_i hnullable
      cases type with
      | any => exact ⟨_, rfl⟩
      | nullable underlying => exact ⟨_, rfl⟩
      | _ => cases hnullable
    · cases h
  · rename_i hnull
    have hne : arg ≠ .null := fun heq => hnull (Value.isNull_iff.2 heq)
    split at h
    · exact exists_coerce_of_typeKey?_eq (by assumption)
    · cases type with
      | any => exact ⟨arg, rfl⟩
      | anyObject =>
        cases arg with
        | object o => exact ⟨_, rfl⟩
        | _ => cases h
      | nullable underlying =>
        -- One layer is looked through, and the underlying type takes the argument.
        rw [coerce_nullable underlying hne]
        simp only [inexactScore?] at h
        split at h
        · exact exists_coerce_of_typeKey?_eq (by assumption)
        · split at h
          · exact exists_coerce_of_acceptsByWidening (by assumption)
          · cases h
      | _ =>
        simp only [inexactScore?] at h
        split at h
        · exact exists_coerce_of_acceptsByWidening (by assumption)
        · cases h

end TypeRef

/-- The argument can be passed: it is not read, or converts to the declared type. -/
def ParamInfo.Accepts (p : ParamInfo) (arg : Value) : Prop :=
  p.mode = .out ∨ ∃ v, p.type.coerce arg = .ok v

namespace ParamInfo

theorem accepts_of_score? {p : ParamInfo} {arg : Value} {n : Nat} (h : p.score? arg = some n) :
    p.Accepts arg := by
  rw [score?] at h
  split at h
  · rename_i hmode
    exact .inl hmode
  · exact .inr (TypeRef.exists_coerce_of_score? h)
  · exact .inr (TypeRef.exists_coerce_of_score? h)

/-- What can be passed depends on the key of the parameter. -/
theorem Accepts.of_key_eq {p q : ParamInfo} {arg : Value} (h : p.Accepts arg)
    (hkey : p.key = q.key) : q.Accepts arg := by
  have htype : p.type = q.type := TypeRef.key_injective (congrArg ParamKey.type hkey)
  have hmode : p.mode = q.mode := congrArg ParamKey.mode hkey
  rw [Accepts, htype, hmode] at h
  exact h

end ParamInfo

/-- Arguments with a total are as many as the parameters, and each of them can be passed. -/
theorem forall₂_accepts_of_totalScore? {params : List ParamInfo} {args : List Value} {n : Nat}
    (h : totalScore? params args = some n) : List.Forall₂ ParamInfo.Accepts params args := by
  induction params generalizing args n with
  | nil =>
    cases args with
    | nil => exact .nil
    | cons => cases h
  | cons p params ih =>
    cases args with
    | nil => cases h
    | cons arg args =>
      simp only [totalScore?, Option.bind_eq_bind, Option.bind_eq_some_iff] at h
      obtain ⟨first, hfirst, rest, hrest, -⟩ := h
      exact .cons (ParamInfo.accepts_of_score? hfirst) (ih hrest)

/-! ## The choice -/

namespace Leaders

/-- The leaders among the overloads seen so far: all those of the greatest total, in order. -/
structure Leads (args : List Value) (seen : List MemberDescriptor) (best : Leaders) : Prop where
  tied_eq : best.tied = seen.filter fun d => totalScore? d.params args = some best.score
  le_score : ∀ d ∈ seen, ∀ total, totalScore? d.params args = some total → total ≤ best.score
  eq_none : best.tied = [] → ∀ d ∈ seen, totalScore? d.params args = Option.none

theorem leads_none (args : List Value) : Leads args [] none :=
  ⟨rfl, by simp, by simp⟩

/-- A new leader is above all overloads seen so far. -/
theorem Leads.lt_of_wins {args : List Value} {seen : List MemberDescriptor} {best : Leaders}
    (h : Leads args seen best) {total : Nat}
    (hwins : (best.tied.isEmpty || decide (best.score < total)) = true) :
    ∀ d ∈ seen, ∀ other, totalScore? d.params args = some other → other < total := by
  intro d hd other hother
  rw [Bool.or_eq_true, List.isEmpty_iff, decide_eq_true_iff] at hwins
  rcases hwins with hempty | hless
  · rw [h.eq_none hempty d hd] at hother
    cases hother
  · exact Nat.lt_of_le_of_lt (h.le_score d hd other hother) hless

/-- One more overload keeps the leaders in the lead. -/
theorem Leads.consider {args : List Value} {seen : List MemberDescriptor} {best : Leaders}
    (h : Leads args seen best) (candidate : MemberDescriptor) :
    Leads args (seen ++ [candidate]) (best.consider args candidate) := by
  rw [Leaders.consider]
  cases hcandidate : totalScore? candidate.params args with
  | none =>
    refine ⟨?_, ?_, ?_⟩
    · simp [h.tied_eq, hcandidate]
    · refine List.forall_mem_append.2 ⟨h.le_score, List.forall_mem_singleton.2 ?_⟩
      simp [hcandidate]
    · intro hempty
      exact List.forall_mem_append.2
        ⟨h.eq_none hempty, List.forall_mem_singleton.2 hcandidate⟩
  | some total =>
    dsimp only
    split
    · -- The candidate takes the lead alone, since nothing seen reaches its total.
      rename_i hwins
      have hbelow := h.lt_of_wins hwins
      have hnone : seen.filter (fun d => totalScore? d.params args = some total) = [] := by
        rw [List.filter_eq_nil_iff]
        intro d hd hother
        exact absurd (hbelow d hd total (of_decide_eq_true hother)) (Nat.lt_irrefl total)
      refine ⟨by simp [hnone, hcandidate], ?_, by simp⟩
      refine List.forall_mem_append.2 ⟨fun d hd other hother => ?_, ?_⟩
      · exact Nat.le_of_lt (hbelow d hd other hother)
      · rw [List.forall_mem_singleton]
        intro other hother
        rw [hcandidate] at hother
        exact Nat.le_of_eq (Option.some.inj hother).symm
    · -- The leaders stay, and the candidate is at most level with them.
      rename_i hloses
      rw [Bool.or_eq_true, List.isEmpty_iff, decide_eq_true_iff, not_or, Nat.not_lt] at hloses
      obtain ⟨hne, hle⟩ := hloses
      have hbound : ∀ d ∈ seen ++ [candidate], ∀ other,
          totalScore? d.params args = some other → other ≤ best.score := by
        refine List.forall_mem_append.2 ⟨h.le_score, ?_⟩
        rw [List.forall_mem_singleton]
        intro other hother
        rw [hcandidate] at hother
        rwa [← Option.some.inj hother]
      split
      · rename_i htie
        refine ⟨?_, hbound, by simp⟩
        rw [List.filter_append, ← h.tied_eq]
        simp [hcandidate, htie]
      · rename_i hbehind
        refine ⟨?_, hbound, fun hempty => absurd hempty hne⟩
        rw [List.filter_append, ← h.tied_eq]
        simp [hcandidate, hbehind]

/-- The leaders of a list lead it. -/
theorem leads_foldl (args : List Value) (candidates : List MemberDescriptor) :
    Leads args candidates (candidates.foldl (Leaders.consider args) none) := by
  have hfold : ∀ (rest seen : List MemberDescriptor) (best : Leaders), Leads args seen best →
      Leads args (seen ++ rest) (rest.foldl (Leaders.consider args) best) := by
    intro rest
    induction rest with
    | nil =>
      intro seen best h
      rwa [List.append_nil]
    | cons candidate rest ih =>
      intro seen best h
      have hrest := ih (seen ++ [candidate]) _ (h.consider candidate)
      rwa [List.append_assoc] at hrest
  exact hfold candidates [] none (leads_none args)

end Leaders

namespace MemberTable

variable {table : MemberTable} {name : String} {args : List Value}

theorem leaders_congr (table : MemberTable) (name : String) {others : List Value}
    (h : args.map Value.typeKey? = others.map Value.typeKey?) :
    table.leaders name args = table.leaders name others := by
  have hconsider : Leaders.consider args = Leaders.consider others := by
    funext best candidate
    rw [Leaders.consider, Leaders.consider, totalScore?_congr candidate.params h]
  rw [leaders, leaders, hconsider]

theorem resolveCall_eq_ok_iff {d : MemberDescriptor} :
    table.resolveCall name args = .ok d ↔ (table.leaders name args).tied = [d] := by
  rw [resolveCall]
  rcases (table.leaders name args).tied with _ | ⟨first, _ | ⟨second, rest⟩⟩ <;> simp

/-- The overload that is chosen depends on the types of the arguments only. What is said when none
is chosen also shows the names that references go by. -/
theorem resolveCall_eq_ok_congr {others : List Value}
    (h : args.map Value.typeKey? = others.map Value.typeKey?) {d : MemberDescriptor} :
    table.resolveCall name args = .ok d ↔ table.resolveCall name others = .ok d := by
  rw [resolveCall_eq_ok_iff, resolveCall_eq_ok_iff, table.leaders_congr name h]

/-- The overload that is chosen is one of the name, and fits the arguments. -/
theorem totalScore?_of_resolveCall {d : MemberDescriptor}
    (h : table.resolveCall name args = .ok d) :
    d ∈ table.methodsNamed name ∧ ∃ total, totalScore? d.params args = some total := by
  have hleads := (Leaders.leads_foldl args (table.methodsNamed name)).tied_eq
  have hmem : d ∈ (table.leaders name args).tied := by
    rw [resolveCall_eq_ok_iff.1 h]
    exact List.mem_singleton_self d
  rw [leaders, hleads, List.mem_filter, decide_eq_true_iff] at hmem
  exact ⟨hmem.1, _, hmem.2⟩

end MemberTable

/-- The errors of a choice: there is no overload, or no single best one. -/
def AccessError.IsUnresolved : AccessError → Prop
  | .memberNotFound _ _ => True
  | .ambiguousOverload _ _ _ => True
  | _ => False

theorem MemberTable.isUnresolved_of_resolveCall {table : MemberTable} {name : String}
    {args : List Value} {e : AccessError} (h : table.resolveCall name args = .error e) :
    e.IsUnresolved := by
  rw [resolveCall] at h
  split at h
  · cases h
    trivial
  · cases h
  · cases h
    trivial

end Reflection
