import Reflection.Proofs.Hiding
import Reflection.Proofs.OverloadSelection

/-!
# Exact overloads

An overload takes arguments exactly if it reads all of them, each by a parameter of exactly its
type (`TakesExactly`). Exactness scores more than anything else in every place
(`ParamInfo.score?_eq_exact_iff`), so a call has the greatest possible total exactly for the
overloads that take its arguments exactly (`totalScore?_eq_exact_iff`). If one of them is visible,
the best candidates are the exact ones (`MemberTable.best_eq_exactMethods`).

Main statement: `MemberTable.keepsExact_build`. A declared method may be hidden, but only by one
with the same parameters; so an exact overload is lost at most to another one that differs from it
in the modes of its parameters.
-/

set_option autoImplicit false

namespace Reflection

/-- Every parameter is read, and has exactly the type of its argument. -/
def TakesExactly (params : List ParamInfo) (args : List Value) : Prop :=
  (∀ p ∈ params, p.mode ≠ .out) ∧
    params.map (fun p => some p.type.key) = args.map Value.typeKey?

instance (params : List ParamInfo) (args : List Value) : Decidable (TakesExactly params args) :=
  inferInstanceAs (Decidable (_ ∧ _))

theorem takesExactly_cons_iff {p : ParamInfo} {params : List ParamInfo} {arg : Value}
    {args : List Value} :
    TakesExactly (p :: params) (arg :: args) ↔
      (p.mode ≠ .out ∧ arg.typeKey? = some p.type.key) ∧ TakesExactly params args := by
  simp only [TakesExactly, List.forall_mem_cons, List.map_cons, List.cons.injEq,
    eq_comm (b := arg.typeKey?)]
  tauto

/-- It depends on the keys of the parameters. -/
theorem takesExactly_iff_map_key {params : List ParamInfo} {args : List Value} :
    TakesExactly params args ↔ (∀ key ∈ params.map ParamInfo.key, key.mode ≠ .out) ∧
      (params.map ParamInfo.key).map (fun key => some key.type) = args.map Value.typeKey? := by
  rw [TakesExactly, List.forall_mem_map, List.map_map]
  rfl

/-- Parameters that take the same arguments exactly have the same types, so only their modes can
tell them apart. -/
theorem TakesExactly.map_key_eq {params others : List ParamInfo} {args : List Value}
    (h : TakesExactly params args) (hothers : TakesExactly others args)
    (hmodes : params.map ParamInfo.mode = others.map ParamInfo.mode) :
    params.map ParamInfo.key = others.map ParamInfo.key := by
  -- A list of keys is its types and its modes side by side.
  have hzip : ∀ ps : List ParamInfo, ps.map ParamInfo.key =
      List.zipWith (fun type mode => ⟨type, mode⟩) (ps.map fun p => p.type.key)
        (ps.map ParamInfo.mode) := by
    intro ps
    rw [List.zipWith_map, List.zipWith_self]
    rfl
  have htypes : (params.map fun p => p.type.key) = others.map fun p => p.type.key := by
    refine List.map_injective_iff.2 (fun _ _ => Option.some.inj) ?_
    rw [List.map_map, List.map_map]
    exact h.2.trans hothers.2.symm
  rw [hzip, hzip, htypes, hmodes]

/-! ## Scores -/

namespace TypeRef

variable {type : TypeRef} {arg : Value} {n : Nat}

/-- A value that is not of exactly the declared type scores less. -/
theorem inexactScore?_lt_exact (h : type.inexactScore? arg = some n) : n < Score.exact := by
  have hwidening : ∀ (wide : TypeRef) (m : Nat),
      (if wide.acceptsByWidening arg then some Score.widening else none) = some m →
        m < Score.exact := by
    intro wide m hm
    split at hm
    · obtain rfl := Option.some.inj hm
      decide
    · cases hm
  cases type with
  | any =>
    obtain rfl := Option.some.inj h
    decide
  | anyObject =>
    obtain ⟨o, -, rfl⟩ := Option.map_eq_some_iff.1 h
    decide
  | nullable underlying =>
    rw [inexactScore?] at h
    split at h
    · obtain rfl := Option.some.inj h
      decide
    · exact hwidening underlying n h
  | _ =>
    simp only [inexactScore?] at h
    exact hwidening _ n h

theorem score?_le_exact (h : type.score? arg = some n) : n ≤ Score.exact := by
  rw [score?] at h
  split at h
  · split at h
    · obtain rfl := Option.some.inj h
      decide
    · cases h
  · split at h
    · exact Nat.le_of_eq (Option.some.inj h).symm
    · exact Nat.le_of_lt (inexactScore?_lt_exact h)

theorem score?_eq_exact_iff :
    type.score? arg = some Score.exact ↔ arg.typeKey? = some type.key := by
  constructor
  · intro h
    rw [score?] at h
    split at h
    · -- Null scores less.
      split at h
      · cases h
      · cases h
    · split at h
      · assumption
      · exact absurd (inexactScore?_lt_exact h) (Nat.lt_irrefl _)
  · intro h
    have hnull : ¬arg.isNull := by
      rw [Value.isNull_iff, ← Value.typeKey?_eq_none_iff, h]
      exact Option.some_ne_none _
    rw [score?, if_neg hnull, if_pos h]

end TypeRef

namespace ParamInfo

variable {p : ParamInfo} {arg : Value}

/-- Nothing scores more than exactness, -/
theorem score?_le_exact {n : Nat} (h : p.score? arg = some n) : n ≤ Score.exact := by
  rw [score?] at h
  split at h
  · obtain rfl := Option.some.inj h
    decide
  · exact TypeRef.score?_le_exact h
  · exact TypeRef.score?_le_exact h

/-- and nothing else scores as much: the argument is read, and has exactly the declared type. -/
theorem score?_eq_exact_iff :
    p.score? arg = some Score.exact ↔ p.mode ≠ .out ∧ arg.typeKey? = some p.type.key := by
  rw [score?]
  cases hmode : p.mode with
  | out => simp [Score.output, Score.exact]
  | value => simp [TypeRef.score?_eq_exact_iff]
  | ref => simp [TypeRef.score?_eq_exact_iff]

end ParamInfo

/-- No total exceeds exactness in every place. -/
theorem totalScore?_le_exact {params : List ParamInfo} {args : List Value} {total : Nat}
    (h : totalScore? params args = some total) : total ≤ Score.exact * args.length := by
  induction params generalizing args total with
  | nil =>
    cases args with
    | nil =>
      obtain rfl := Option.some.inj h
      exact Nat.zero_le _
    | cons => cases h
  | cons p params ih =>
    cases args with
    | nil => cases h
    | cons arg args =>
      simp only [totalScore?, Option.bind_eq_bind, Option.bind_eq_some_iff] at h
      obtain ⟨first, hfirst, rest, hrest, hsum⟩ := h
      have hfirst' : first ≤ Score.exact := ParamInfo.score?_le_exact hfirst
      have hrest' : rest ≤ Score.exact * args.length := ih hrest
      rw [List.length_cons, Nat.mul_succ, ← Option.some.inj hsum]
      omega

/-- The greatest total is that of the overloads that take the arguments exactly. -/
theorem totalScore?_eq_exact_iff {params : List ParamInfo} {args : List Value} :
    totalScore? params args = some (Score.exact * args.length) ↔ TakesExactly params args := by
  induction params generalizing args with
  | nil =>
    cases args with
    | nil => simp [totalScore?, TakesExactly]
    | cons => simp [totalScore?, TakesExactly]
  | cons p params ih =>
    cases args with
    | nil => simp [totalScore?, TakesExactly]
    | cons arg args =>
      rw [takesExactly_cons_iff, ← ih, ← ParamInfo.score?_eq_exact_iff]
      simp only [totalScore?, Option.bind_eq_bind, Option.bind_eq_some_iff]
      constructor
      · rintro ⟨first, hfirst, rest, hrest, hsum⟩
        -- Both parts are at their bounds, since their sum is.
        have hfirst' : first ≤ Score.exact := ParamInfo.score?_le_exact hfirst
        have hrest' : rest ≤ Score.exact * args.length := totalScore?_le_exact hrest
        rw [List.length_cons, Nat.mul_succ, Option.some.injEq] at hsum
        obtain rfl : first = Score.exact := by omega
        obtain rfl : rest = Score.exact * args.length := by omega
        exact ⟨hfirst, hrest⟩
      · rintro ⟨hfirst, hrest⟩
        exact ⟨_, hfirst, _, hrest, by rw [List.length_cons, Nat.mul_succ, Nat.add_comm]⟩

/-! ## The choice among exact overloads -/

namespace MemberTable

variable {table : MemberTable} {name : String} {args : List Value}

/-- The visible methods of a name that take the arguments exactly, in table order. -/
def exactMethods (table : MemberTable) (name : String) (args : List Value) :
    List MemberDescriptor :=
  (table.methodsNamed name).filter fun d => TakesExactly d.params args

theorem mem_exactMethods_iff {d : MemberDescriptor} :
    d ∈ table.exactMethods name args ↔
      d ∈ table.methodsNamed name ∧ TakesExactly d.params args := by
  rw [exactMethods, List.mem_filter, decide_eq_true_iff]

/-- If there is an exact overload, the best candidates are the exact ones. -/
theorem best_eq_exactMethods (h : table.exactMethods name args ≠ []) :
    table.best name args = table.exactMethods name args := by
  obtain ⟨d, hd⟩ := List.exists_mem_of_ne_nil _ h
  obtain ⟨hnamed, hexact⟩ := mem_exactMethods_iff.1 hd
  have hreached : (d, Score.exact * args.length) ∈ table.candidates name args :=
    mem_candidates_iff.2 ⟨hnamed, totalScore?_eq_exact_iff.2 hexact⟩
  have hbound : ∀ c ∈ table.candidates name args, c.2 ≤ Score.exact * args.length :=
    fun c hc => totalScore?_le_exact (mem_candidates_iff.1 hc).2
  have hgreatest : ∀ c ∈ table.candidates name args,
      ((∀ other ∈ table.candidates name args, other.2 ≤ c.2) ↔
        c.2 = Score.exact * args.length) := by
    intro c hc
    constructor
    · intro hall
      exact Nat.le_antisymm (hbound c hc) (hall _ hreached)
    · rintro heq other hother
      exact heq ▸ hbound other hother
  rw [best, List.filter_congr fun c hc => decide_eq_decide.2 (hgreatest c hc),
    map_fst_filter_candidates, exactMethods]
  simp only [totalScore?_eq_exact_iff]

/-- Exact overloads that are visible together differ in modes. -/
theorem pairwise_modes_exactMethods (r : Registry) (type : TypeId) :
    ((build r type).exactMethods name args).Pairwise fun a b =>
      a.params.map ParamInfo.mode ≠ b.params.map ParamInfo.mode := by
  have hkeys : ((build r type).exactMethods name args).Pairwise fun a b =>
      Registry.paramsOf a ≠ Registry.paramsOf b := by
    rw [exactMethods, methodsNamed_build]
    exact (r.pairwise_methods type name).filter _
  refine hkeys.imp_of_mem fun ha hb hne hmodes => hne ?_
  exact (mem_exactMethods_iff.1 ha).2.map_key_eq (mem_exactMethods_iff.1 hb).2 hmodes

/-- So there is only one if none of them differs from another in modes. -/
theorem exactMethods_eq_singleton (hne : table.exactMethods name args ≠ [])
    (hmodes : (table.exactMethods name args).Pairwise fun a b =>
      a.params.map ParamInfo.mode ≠ b.params.map ParamInfo.mode)
    (hsame : ∀ a ∈ table.exactMethods name args, ∀ b ∈ table.exactMethods name args,
      a.params.map ParamInfo.mode = b.params.map ParamInfo.mode) :
    ∃ d, table.exactMethods name args = [d] := by
  cases hlist : table.exactMethods name args with
  | nil => exact absurd hlist hne
  | cons d rest =>
    rw [hlist] at hmodes hsame
    cases rest with
    | nil => exact ⟨d, rfl⟩
    | cons other rest =>
      -- The first two would have the same modes.
      have hother : other ∈ d :: other :: rest := List.mem_cons_of_mem d List.mem_cons_self
      have hdiffer := (List.pairwise_cons.1 hmodes).1 other List.mem_cons_self
      exact absurd (hsame d List.mem_cons_self other hother) hdiffer

/-- A method that the type or an ancestor declares is hidden at most by one that takes the same
arguments exactly. -/
theorem exactMethods_build_ne_nil {r : Registry} {type : TypeId} {owner : TypeInfo}
    (howner : owner ∈ r.ancestors type) {m : MethodInfo} (hm : m ∈ owner.methods)
    (hexact : TakesExactly m.params args) : (build r type).exactMethods m.name args ≠ [] := by
  -- What is left of the methods with these parameters is the nearest one.
  obtain ⟨near, first, -, hleft⟩ := Registry.exists_isNearest howner hm
  have hmem : MemberDescriptor.ofMethod near first ∈
      (r.methods type m.name).filter fun d => Registry.paramsOf d == m.paramKeys :=
    hleft ▸ List.mem_singleton_self _
  obtain ⟨hnamed, hkeys⟩ := List.mem_filter.1 hmem
  have hleftKeys : first.params.map ParamInfo.key = m.params.map ParamInfo.key := beq_iff_eq.1 hkeys
  have hleftExact : TakesExactly (MemberDescriptor.ofMethod near first).params args := by
    rw [takesExactly_iff_map_key] at hexact ⊢
    exact hleftKeys.symm ▸ hexact
  refine List.ne_nil_of_mem (mem_exactMethods_iff.2 ⟨?_, hleftExact⟩)
  rw [methodsNamed_build]
  exact hnamed

/-- What a call comes to when there is an exact overload. -/
structure KeepsExact (table : MemberTable) (name : String) (args : List Value) : Prop where
  /-- There is a member. -/
  found : ∀ type member, table.resolveCall name args ≠ .error (.memberNotFound type member)
  /-- An overload that is chosen takes the arguments exactly. -/
  chosen : ∀ d, table.resolveCall name args = .ok d →
    d ∈ table.methodsNamed name ∧ TakesExactly d.params args
  /-- If none is chosen, several overloads are tied that take the arguments exactly and differ in
  the modes of their parameters. -/
  ambiguous : ∀ e, table.resolveCall name args = .error e → ∃ tied : List MemberDescriptor,
    e = .ambiguousOverload table.typeName name (tied.map MemberDescriptor.display) ∧
      2 ≤ tied.length ∧
      (∀ d ∈ tied, d ∈ table.methodsNamed name ∧ TakesExactly d.params args) ∧
      tied.Pairwise fun a b => a.params.map ParamInfo.mode ≠ b.params.map ParamInfo.mode
  /-- So one is chosen if no two visible ones differ in modes only. -/
  called : (∀ a ∈ table.methodsNamed name, ∀ b ∈ table.methodsNamed name,
      TakesExactly a.params args → TakesExactly b.params args →
        a.params.map ParamInfo.mode = b.params.map ParamInfo.mode) →
    ∃ d ∈ table.methodsNamed name, TakesExactly d.params args ∧
      table.resolveCall name args = .ok d

theorem keepsExact_of_exactMethods (hne : table.exactMethods name args ≠ [])
    (hmodes : (table.exactMethods name args).Pairwise fun a b =>
      a.params.map ParamInfo.mode ≠ b.params.map ParamInfo.mode) : table.KeepsExact name args := by
  have hbest := best_eq_exactMethods hne
  have hfound : ∀ type member,
      table.resolveCall name args ≠ .error (.memberNotFound type member) := by
    intro type member h
    rw [← hbest] at hne
    exact hne (best_eq_nil_iff.2 (resolveCall_eq_notFound_iff.1 h).1)
  refine ⟨hfound, ?_, ?_, ?_⟩
  · intro d hd
    rw [resolveCall_eq_ok_iff_best, hbest] at hd
    exact mem_exactMethods_iff.1 (hd ▸ List.mem_singleton_self d)
  · intro e he
    have hunresolved := isUnresolved_of_resolveCall he
    cases e with
    | memberNotFound type member => exact absurd he (hfound type member)
    | ambiguousOverload type member texts =>
      rw [resolveCall_eq_ambiguous_iff, hbest] at he
      obtain ⟨hseveral, rfl, rfl, rfl⟩ := he
      exact ⟨_, rfl, hseveral, fun d hd => mem_exactMethods_iff.1 hd, hmodes⟩
    | _ => cases hunresolved
  · intro hsame
    obtain ⟨d, hd⟩ := exactMethods_eq_singleton hne hmodes fun a ha b hb =>
      hsame a (mem_exactMethods_iff.1 ha).1 b (mem_exactMethods_iff.1 hb).1
        (mem_exactMethods_iff.1 ha).2 (mem_exactMethods_iff.1 hb).2
    obtain ⟨hnamed, hexact⟩ := mem_exactMethods_iff.1 (hd ▸ List.mem_singleton_self d)
    exact ⟨d, hnamed, hexact, resolveCall_eq_ok_iff_best.2 (hbest.trans hd)⟩

/-- An exact overload is never lost to a looser one: if the type or an ancestor declares a method of
the name that takes the arguments exactly, then what is chosen, or tied, takes them exactly. -/
theorem keepsExact_build (r : Registry) (type : TypeId) (name : String) (args : List Value)
    {owner : TypeInfo} (howner : owner ∈ r.ancestors type) {m : MethodInfo}
    (hm : m ∈ owner.methods) (hname : m.name = name) (hexact : TakesExactly m.params args) :
    (build r type).KeepsExact name args := by
  subst hname
  exact keepsExact_of_exactMethods (exactMethods_build_ne_nil howner hm hexact)
    (pairwise_modes_exactMethods r type)

end MemberTable

/-! ## An inherited overload -/

namespace Looser

/-- The type whose instances are called, and its base. -/
def derived : TypeId := .named "Derived"

def base : TypeId := .named "Base"

/-- A method of a type that takes one argument and does nothing. -/
def put (owner : TypeId) (type : TypeRef) (mode : ParamMode) : MethodInfo where
  name := "Put"
  visibility := .pub
  declaring := owner
  params := [⟨"value", type, mode⟩]
  returnType := none
  body := .shared ⟨fun _ frame store => ⟨.ok none, frame, store⟩⟩

/-- The base takes an integer by reference. -/
def baseInfo : TypeInfo :=
  { TypeInfo.ofInterface base with
    methods := [put base (.number (.int .i32)) .ref]
    methods_declaring := by simp [put, TypeInfo.ofInterface] }

/-- The derived type takes any value, an integer or null, a wider integer, and an integer that it
only writes. -/
def derivedInfo : TypeInfo :=
  { TypeInfo.ofInterface derived with
    base := some (.embedded base)
    methods := [put derived .any .value, put derived (.nullable (.number (.int .i32))) .value,
      put derived (.number (.int .i64)) .value, put derived (.number (.int .i32)) .out]
    methods_declaring := by simp [put, TypeInfo.ofInterface] }

def registry : Registry :=
  (Registry.empty.insert baseInfo).insert derivedInfo

def seven : Value := .int ⟨.i32, 7, by decide⟩

end Looser

open Looser in
/-- The method of the base is called, although nearer ones would take the argument. -/
theorem MemberTable.keepsExact_inherited :
    baseInfo ∈ registry.ancestors derived ∧
      TakesExactly (put base (.number (.int .i32)) .ref).params [seven] ∧
        (build registry derived).KeepsExact "Put" [seven] ∧
          ((build registry derived).resolveCall "Put" [seven]).map MemberDescriptor.display =
            .ok "Base::Put(ref i32)" := by
  have hbase : baseInfo ∈ registry.ancestors derived := List.mem_cons_of_mem _ List.mem_cons_self
  have hexact : TakesExactly (put base (.number (.int .i32)) .ref).params [seven] := by decide
  exact ⟨hbase, hexact, keepsExact_build registry derived "Put" [seven] hbase List.mem_cons_self rfl
    hexact, rfl⟩

end Reflection
