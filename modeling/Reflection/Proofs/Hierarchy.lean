import Mathlib.Data.List.Perm.Subperm
import Reflection.Access.Binding

/-!
# Chains of bases

A chain holds registered descriptions (`Registry.find?_id_of_mem_chain`), every type on it is
reached by steps (`Registry.exists_pathTo?_of_mem_chain`), and the steps lead from any instance to
its part of that type (`Registry.follow?_of_pathTo?`). No chain is cut too early: the ancestors of a
type are all types that its base links lead to (`Registry.mem_ancestors_of_mem_chain`).

Main statements: `TargetBinding.part?_of_mem_ancestors` and `TargetBinding.part?_eq_some_iff`. The
ways that a binding was made with are those steps, so an instance of any registered type binds to
its part of every ancestor of its type, and to nothing else. All of this holds for targets that are
read and for targets that are written, each with the parts of its own.
-/

set_option autoImplicit false

namespace Reflection

namespace Registry

variable {r : Registry}

/-- The second type is registered as the base of the first one. -/
def HasBase (r : Registry) (type other : TypeId) : Prop :=
  ∃ info base, r.find? type = some info ∧ info.base = some base ∧ base.type = other

theorem mem_chain_succ_iff {steps : Nat} {type : TypeId} {info : TypeInfo} :
    info ∈ r.chain (steps + 1) type ↔
      ∃ first, r.find? type = some first ∧
        (info = first ∨ ∃ base, first.base = some base ∧ info ∈ r.chain steps base.type) := by
  rw [chain]
  cases r.find? type with
  | none => simp
  | some first => cases hbase : first.base <;> simp [hbase]

/-- What is on a chain is what the registry holds for its type. -/
theorem find?_id_of_mem_chain {steps : Nat} {type : TypeId} {info : TypeInfo}
    (h : info ∈ r.chain steps type) : r.find? info.id = some info := by
  induction steps generalizing type with
  | zero => cases h
  | succ steps ih =>
    obtain ⟨first, hfirst, rfl | ⟨base, -, hrest⟩⟩ := mem_chain_succ_iff.1 h
    · rw [id_of_find? hfirst, hfirst]
    · exact ih hrest

/-- There are steps to every type on a chain. -/
theorem exists_pathTo?_of_mem_chain {steps : Nat} {type : TypeId} {info : TypeInfo}
    (h : info ∈ r.chain steps type) :
    ∃ path, pathTo? info.id (r.chain steps type) = some path := by
  induction steps generalizing type with
  | zero => cases h
  | succ steps ih =>
    obtain ⟨first, hfirst, hor⟩ := mem_chain_succ_iff.1 h
    rw [chain, hfirst]
    by_cases hid : first.id = info.id
    · exact ⟨[], by simp [pathTo?, hid]⟩
    · rcases hor with rfl | ⟨base, hbase, hrest⟩
      · exact absurd rfl hid
      · obtain ⟨path, hpath⟩ := ih hrest
        refine ⟨⟨first.id, base⟩ :: path, ?_⟩
        simp [pathTo?, hid, TypeInfo.upcast?, hbase, hpath]

/-- The part of a target that is an instance of a type, for a use of the target: the target itself,
or else that part of its base. -/
inductive HasPart (r : Registry) (use : TargetUse) (expected : TypeId) : Target → Target → Prop
  | self {target : Target} : target.type = expected → HasPart r use expected target target
  | inBase {target part : Target} {info : TypeInfo} {base : BaseInfo} :
      target.type ≠ expected → r.find? target.type = some info → info.base = some base →
      HasPart r use expected ⟨base.part use target.address, base.type⟩ part →
      HasPart r use expected target part

namespace HasPart

variable {use : TargetUse} {expected : TypeId} {target part : Target}

theorem type_eq (h : r.HasPart use expected target part) : part.type = expected := by
  induction h with
  | self htype => exact htype
  | inBase _ _ _ _ ih => exact ih

/-- For one use, a target has at most one part of a type. -/
theorem unique {other : Target} (h : r.HasPart use expected target part)
    (hother : r.HasPart use expected target other) : part = other := by
  -- Both ways stop at the target, or both go on to the part of its base.
  induction h with
  | self htype =>
    cases hother with
    | self => rfl
    | inBase hne => exact absurd htype hne
  | inBase hne hinfo hbase _ ih =>
    cases hother with
    | self htype => exact absurd htype hne
    | inBase _ hinfo' hbase' hrest =>
      obtain rfl := Option.some.inj (hinfo.symm.trans hinfo')
      obtain rfl := Option.some.inj (hbase.symm.trans hbase')
      exact ih hrest

end HasPart

/-- The steps along a chain lead from every instance of its first type to its part. -/
theorem follow?_of_pathTo? {steps : Nat} {type expected : TypeId} {path : List Upcast}
    (h : pathTo? expected (r.chain steps type) = some path) (use : TargetUse)
    (address : Address) :
    ∃ part, Upcast.follow? use path ⟨address, type⟩ = some part ∧
      r.HasPart use expected ⟨address, type⟩ part := by
  induction steps generalizing type path address with
  | zero => cases h
  | succ steps ih =>
    rw [chain] at h
    cases hfirst : r.find? type with
    | none =>
      rw [hfirst] at h
      cases h
    | some first =>
      have hid : first.id = type := id_of_find? hfirst
      rw [hfirst] at h
      by_cases hexpected : type = expected
      · simp only [pathTo?, hid, if_pos hexpected, Option.some.injEq] at h
        subst h
        exact ⟨⟨address, type⟩, rfl, .self hexpected⟩
      · cases hbase : first.base with
        | none => simp [pathTo?, hid, hexpected, TypeInfo.upcast?, hbase] at h
        | some base =>
          simp only [pathTo?, hid, if_neg hexpected, TypeInfo.upcast?, hbase, Option.map_some,
            Option.bind_eq_bind, Option.bind_some, Option.bind_eq_some_iff,
            Option.some.injEq] at h
          obtain ⟨rest, hrest, rfl⟩ := h
          -- The first step is taken from the instance itself, the others from its base part.
          obtain ⟨part, hpart, hinBase⟩ := ih hrest (base.part use address)
          refine ⟨part, ?_, .inBase hexpected hfirst hbase hinBase⟩
          simpa [Upcast.follow?, Upcast.part?] using hpart

/-- Steps are found only to the types on a chain. -/
theorem exists_mem_of_pathTo? {expected : TypeId} {chain : List TypeInfo} {path : List Upcast}
    (h : pathTo? expected chain = some path) : ∃ info ∈ chain, info.id = expected := by
  induction chain generalizing path with
  | nil => cases h
  | cons info chain ih =>
    by_cases hid : info.id = expected
    · exact ⟨info, List.mem_cons_self, hid⟩
    · simp only [pathTo?, if_neg hid, Option.bind_eq_bind, Option.bind_eq_some_iff] at h
      obtain ⟨-, -, rest, hrest, -⟩ := h
      obtain ⟨owner, howner, hexpected⟩ := ih hrest
      exact ⟨owner, List.mem_cons_of_mem info howner, hexpected⟩

/-! ## Chains are long enough -/

/-- The types that are passed on the way from a type to the description of one that its base links
lead to. -/
inductive Passes (r : Registry) : TypeId → List TypeId → TypeInfo → Prop
  | last {type : TypeId} {info : TypeInfo} : r.find? type = some info → Passes r type [type] info
  | link {type : TypeId} {passed : List TypeId} {first info : TypeInfo} {base : BaseInfo} :
      r.find? type = some first → first.base = some base → Passes r base.type passed info →
      Passes r type (type :: passed) info

namespace Passes

variable {type : TypeId} {passed : List TypeId} {info : TypeInfo}

theorem registered (h : r.Passes type passed info) :
    ∀ other ∈ passed, other ∈ r.entries.map TypeInfo.id := by
  have hfound : ∀ {type : TypeId} {info : TypeInfo}, r.find? type = some info →
      type ∈ r.entries.map TypeInfo.id := fun h =>
    List.mem_map.2 ⟨_, mem_of_find? h, id_of_find? h⟩
  induction h with
  | last hinfo => exact List.forall_mem_cons.2 ⟨hfound hinfo, fun _ h => nomatch h⟩
  | link hfirst _ _ ih => exact List.forall_mem_cons.2 ⟨hfound hfirst, ih⟩

theorem mem_chain (h : r.Passes type passed info) {steps : Nat} (hsteps : passed.length ≤ steps) :
    info ∈ r.chain steps type := by
  induction h generalizing steps with
  | last hinfo =>
    obtain ⟨steps, rfl⟩ := Nat.exists_eq_add_of_le' hsteps
    exact mem_chain_succ_iff.2 ⟨_, hinfo, .inl rfl⟩
  | link hfirst hbase _ ih =>
    cases steps with
    | zero => cases hsteps
    | succ steps =>
      exact mem_chain_succ_iff.2 ⟨_, hfirst, .inr ⟨_, hbase, ih (Nat.le_of_succ_le_succ hsteps)⟩⟩

/-- From a type that is passed, the rest of the way goes on. -/
theorem rest (h : r.Passes type passed info) {other : TypeId} (hother : other ∈ passed)
    (hnodup : passed.Nodup) : ∃ rest, r.Passes other rest info ∧ rest.Nodup := by
  induction h with
  | last hinfo =>
    obtain rfl := List.mem_singleton.1 hother
    exact ⟨_, .last hinfo, hnodup⟩
  | link hfirst hbase hrest ih =>
    rcases List.mem_cons.1 hother with rfl | hmem
    · exact ⟨_, .link hfirst hbase hrest, hnodup⟩
    · exact ih hmem (List.nodup_cons.1 hnodup).2

end Passes

/-- There is a way to every type on a chain that passes no type twice. -/
theorem exists_passes_of_mem_chain {steps : Nat} {type : TypeId} {info : TypeInfo}
    (h : info ∈ r.chain steps type) : ∃ passed, r.Passes type passed info ∧ passed.Nodup := by
  induction steps generalizing type with
  | zero => cases h
  | succ steps ih =>
    obtain ⟨first, hfirst, rfl | ⟨base, hbase, hrest⟩⟩ := mem_chain_succ_iff.1 h
    · exact ⟨[type], .last hfirst, by simp⟩
    · obtain ⟨passed, hpassed, hnodup⟩ := ih hrest
      -- If the links come back to the type, the way starts there only.
      by_cases hagain : type ∈ passed
      · exact hpassed.rest hagain hnodup
      · exact ⟨type :: passed, .link hfirst hbase hpassed, List.nodup_cons.2 ⟨hagain, hnodup⟩⟩

/-- The ancestors of a type are on every chain of its, however long: no more types can be passed
than are registered. -/
theorem mem_ancestors_of_mem_chain {steps : Nat} {type : TypeId} {info : TypeInfo}
    (h : info ∈ r.chain steps type) : info ∈ r.ancestors type := by
  obtain ⟨passed, hpassed, hnodup⟩ := exists_passes_of_mem_chain h
  refine hpassed.mem_chain ?_
  -- Types that are passed are registered, each of them once.
  have hsub := (List.subperm_of_subset hnodup hpassed.registered).length_le
  rwa [List.length_map] at hsub

theorem mem_ancestors_of_find? {type : TypeId} {info : TypeInfo} (h : r.find? type = some info) :
    info ∈ r.ancestors type := by
  have hfirst : info ∈ r.chain 1 type := mem_chain_succ_iff.2 ⟨info, h, .inl rfl⟩
  exact mem_ancestors_of_mem_chain hfirst

theorem isAssignable_of_mem_ancestors {type : TypeId} {owner : TypeInfo}
    (h : owner ∈ r.ancestors type) : r.isAssignable type owner.id = true := by
  rw [isAssignable, Bool.or_eq_true, List.any_eq_true]
  exact .inr ⟨owner, h, beq_self_eq_true owner.id⟩

/-- An assignable target has a part of the expected type, for every use. -/
theorem exists_hasPart_of_isAssignable {expected : TypeId} {target : Target}
    (h : r.isAssignable target.type expected = true) (use : TargetUse) :
    ∃ part, r.HasPart use expected target part := by
  rw [isAssignable, Bool.or_eq_true, beq_iff_eq, List.any_eq_true] at h
  rcases h with htype | ⟨info, hinfo, hid⟩
  · exact ⟨target, .self htype⟩
  · obtain rfl := beq_iff_eq.1 hid
    obtain ⟨path, hpath⟩ := exists_pathTo?_of_mem_chain hinfo
    obtain ⟨part, -, hpart⟩ := follow?_of_pathTo? hpath use target.address
    exact ⟨part, hpart⟩

/-- The base links lead a target to its part through ancestors of its type. -/
theorem HasPart.mem_ancestors {use : TargetUse} {expected : TypeId} {owner : TypeInfo}
    {target part : Target} (h : r.HasPart use expected target part)
    (howner : r.find? expected = some owner) :
    owner ∈ r.ancestors target.type := by
  -- Each link makes the chain longer by one, and any length will do.
  suffices hchain : ∃ steps, owner ∈ r.chain steps target.type by
    obtain ⟨steps, hsteps⟩ := hchain
    exact mem_ancestors_of_mem_chain hsteps
  induction h with
  | self htype => exact ⟨1, mem_chain_succ_iff.2 ⟨owner, htype ▸ howner, .inl rfl⟩⟩
  | inBase _ hinfo hbase _ ih =>
    obtain ⟨steps, hsteps⟩ := ih
    exact ⟨steps + 1, mem_chain_succ_iff.2 ⟨_, hinfo, .inr ⟨_, hbase, hsteps⟩⟩⟩

/-- A target is assignable to a registered type exactly if the base links lead to a part. -/
theorem isAssignable_iff_exists_hasPart {expected : TypeId} {owner : TypeInfo}
    (howner : r.find? expected = some owner) (use : TargetUse) {target : Target} :
    r.isAssignable target.type expected = true ↔ ∃ part, r.HasPart use expected target part := by
  refine ⟨fun h => exists_hasPart_of_isAssignable h use, ?_⟩
  rintro ⟨part, hpart⟩
  rw [← id_of_find? howner]
  exact isAssignable_of_mem_ancestors (hpart.mem_ancestors howner)

theorem chain_eq_nil (steps : Nat) {type : TypeId} (h : r.find? type = none) :
    r.chain steps type = [] := by
  cases steps with
  | zero => rfl
  | succ steps => rw [chain, h]

theorem ancestors_eq_nil {type : TypeId} (h : r.find? type = none) : r.ancestors type = [] :=
  chain_eq_nil r.size h

/-- No step leads from a registered type to itself. -/
theorem upcastPath?_self {type : TypeId} {info : TypeInfo} (h : r.find? type = some info) :
    r.upcastPath? type type = some [] := by
  have hsize : r.size = r.size - 1 + 1 := by
    have hpos := List.length_pos_of_mem (mem_of_find? h)
    rw [size]
    omega
  rw [upcastPath?, ancestors, hsize, chain, h]
  exact if_pos (id_of_find? h)

end Registry

namespace TargetBinding

variable {r : Registry}

section Ways

variable {type declaring : TypeId}

/-- Collecting the way from one type sets the entry of that type and no other one. -/
theorem find?_addPath (h : type ≠ declaring) (ways : TypeMap (List Upcast)) (info : TypeInfo) :
    (addPath r declaring ways info).find? type =
      if info.id = type then (r.upcastPath? type declaring).or (ways.find? type)
      else ways.find? type := by
  rw [addPath]
  by_cases hid : info.id = type
  · subst hid
    rw [if_neg h, if_pos rfl]
    cases r.upcastPath? info.id declaring with
    | none => rfl
    | some path => exact ways.find?_insert_self info.id path
  · rw [if_neg hid]
    split
    · rfl
    · cases r.upcastPath? info.id declaring with
      | none => rfl
      | some path => exact ways.find?_insert_of_ne (Ne.symm hid) path

/-- Entries of one type have one value, so it does not matter which of them is collected last. -/
theorem find?_foldl_addPath (h : type ≠ declaring) (entries : List TypeInfo)
    (ways : TypeMap (List Upcast)) :
    (entries.foldl (addPath r declaring) ways).find? type =
      if entries.any fun info => info.id == type then
        (r.upcastPath? type declaring).or (ways.find? type)
      else ways.find? type := by
  induction entries generalizing ways with
  | nil => rfl
  | cons info entries ih =>
    rw [List.foldl_cons, ih, find?_addPath h]
    -- Another entry of the type would only set the same way again.
    by_cases hid : info.id = type
    · cases r.upcastPath? type declaring <;> simp [hid]
    · simp [hid]

/-- The ways of a binding hold, for each registered type, the steps to the declaring type. -/
theorem find?_paths (h : type ≠ declaring) :
    (paths r declaring).find? type = r.upcastPath? type declaring := by
  rw [paths, find?_foldl_addPath h]
  split
  · exact Option.or_none
  · rename_i hany
    cases hfind : r.find? type with
    | none =>
      rw [Registry.upcastPath?, Registry.ancestors_eq_nil hfind, Registry.pathTo?]
      rfl
    | some info =>
      refine absurd (List.any_eq_true.2 ?_) hany
      exact ⟨info, Registry.mem_of_find? hfind, beq_iff_eq.2 (Registry.id_of_find? hfind)⟩

end Ways

/-- Binding follows the steps of the registry. -/
theorem part?_paths {target : Target} {info : TypeInfo} (h : r.find? target.type = some info)
    (use : TargetUse) (declaring : TypeId) :
    part? use declaring (paths r declaring) target =
      (r.upcastPath? target.type declaring).bind fun path => Upcast.follow? use path target := by
  rw [part?]
  split
  · rename_i hself
    subst hself
    rw [Registry.upcastPath?_self h]
    rfl
  · rename_i hne
    rw [find?_paths hne]

/-- An instance binds to every ancestor of its type. -/
theorem part?_of_mem_ancestors {target : Target} {owner : TypeInfo}
    (h : owner ∈ r.ancestors target.type) (use : TargetUse) :
    ∃ path part, r.upcastPath? target.type owner.id = some path ∧
      Upcast.follow? use path target = some part ∧ part.type = owner.id ∧
      part? use owner.id (paths r owner.id) target = some part := by
  obtain ⟨path, hpath⟩ := Registry.exists_pathTo?_of_mem_chain h
  obtain ⟨part, hpart, hasPart⟩ := Registry.follow?_of_pathTo? hpath use target.address
  refine ⟨path, part, hpath, hpart, hasPart.type_eq, ?_⟩
  cases hfind : r.find? target.type with
  | none =>
    rw [Registry.ancestors_eq_nil hfind] at h
    cases h
  | some info =>
    rw [part?_paths hfind, Registry.upcastPath?, Registry.ancestors, hpath]
    exact hpart

/-- A way that a binding was made with is never lost on the way. -/
theorem follow?_isSome_of_find? {target : Target} {declaring : TypeId} {path : List Upcast}
    (hne : target.type ≠ declaring) (h : (paths r declaring).find? target.type = some path)
    (use : TargetUse) : (Upcast.follow? use path target).isSome := by
  rw [find?_paths hne] at h
  obtain ⟨part, hpart, -⟩ := Registry.follow?_of_pathTo? h use target.address
  exact Option.isSome_of_eq_some hpart

/-- A binding finds the part of a target, and nothing for a target that is not assignable. -/
theorem part?_eq_some_iff {use : TargetUse} {declaring : TypeId} {target part : Target} :
    part? use declaring (paths r declaring) target = some part ↔
      r.isAssignable target.type declaring = true ∧ r.HasPart use declaring target part := by
  by_cases hself : target.type = declaring
  · rw [part?, if_pos hself, Option.some.injEq]
    constructor
    · rintro rfl
      exact ⟨by simp [Registry.isAssignable, hself], .self hself⟩
    · rintro ⟨-, hpart⟩
      exact (Registry.HasPart.self hself).unique hpart
  · rw [part?, if_neg hself, find?_paths hself, Option.bind_eq_some_iff]
    constructor
    · rintro ⟨path, hpath, hfollow⟩
      obtain ⟨found, hfound, hpart⟩ := Registry.follow?_of_pathTo? hpath use target.address
      obtain rfl := Option.some.inj (hfollow.symm.trans hfound)
      obtain ⟨info, hinfo, rfl⟩ := Registry.exists_mem_of_pathTo? hpath
      exact ⟨Registry.isAssignable_of_mem_ancestors hinfo, hpart⟩
    · rintro ⟨hassignable, hpart⟩
      rw [Registry.isAssignable, Bool.or_eq_true, beq_iff_eq, List.any_eq_true] at hassignable
      obtain ⟨info, hinfo, hid⟩ := hassignable.resolve_left hself
      obtain rfl := beq_iff_eq.1 hid
      obtain ⟨path, hpath⟩ := Registry.exists_pathTo?_of_mem_chain hinfo
      obtain ⟨found, hfound, hasPart⟩ := Registry.follow?_of_pathTo? hpath use target.address
      obtain rfl := hasPart.unique hpart
      exact ⟨path, hpath, hfound⟩

end TargetBinding

end Reflection
