import Mathlib.Logic.Relation
import Reflection.Proofs.Hierarchy

/-!
# The order of the hierarchy

A type is assignable to another one if it is that type, or if the other one is registered and base
links lead to it (`Registry.isAssignable_iff`). A type has at most one base, so of two types that
links lead to, links lead from one of them to the other.

Main statement: `Registry.Acyclic.coherent`. If no type is its own base over any number of links,
every walk along the bases ends (`Registry.Acyclic.ends`) and the ancestors of a type are its walk.
They are distinct, assignability is a partial order in which what lies above a type is a chain, and
the steps to an ancestor of an ancestor are the steps to the one and then the steps from there.
Bases need not be registered: a chain stops where the description of the next type is missing, and
that type is then no ancestor. Without the condition, two types can be assignable to each other, as
the last example shows.
-/

set_option autoImplicit false

namespace Reflection

namespace Registry

variable {r : Registry} {a b c : TypeId}

/-- Base links lead from no type back to it. -/
def Acyclic (r : Registry) : Prop :=
  ∀ type, ¬Relation.TransGen r.HasBase type type

/-- The types of the ancestors, the type itself first if it is registered. -/
def ancestorIds (r : Registry) (type : TypeId) : List TypeId :=
  (r.ancestors type).map TypeInfo.id

theorem rightUnique_hasBase (r : Registry) : Relator.RightUnique r.HasBase := by
  rintro derived first second ⟨info, link, hinfo, hlink, rfl⟩ ⟨other, last, hother, hlast, rfl⟩
  obtain rfl := Option.some.inj (hinfo.symm.trans hother)
  obtain rfl := Option.some.inj (hlink.symm.trans hlast)
  rfl

/-! ## Ancestors are the registered types that links lead to -/

/-- A chain goes on with the chain of the base. -/
theorem chain_succ_of_find? {steps : Nat} {first : TypeInfo} (hfirst : r.find? a = some first) :
    r.chain (steps + 1) a = first :: first.base.elim [] fun link => r.chain steps link.type := by
  cases hlink : first.base <;> simp [chain, hfirst, hlink]

theorem reaches_of_mem_chain {steps : Nat} {info : TypeInfo} (h : info ∈ r.chain steps a) :
    Relation.ReflTransGen r.HasBase a info.id := by
  induction steps generalizing a with
  | zero => cases h
  | succ steps ih =>
    obtain ⟨first, hfirst, rfl | ⟨link, hlink, hrest⟩⟩ := mem_chain_succ_iff.1 h
    · rw [id_of_find? hfirst]
    · exact .head ⟨first, link, hfirst, hlink, rfl⟩ (ih hrest)

theorem exists_mem_chain_of_reaches {info : TypeInfo} (hinfo : r.find? info.id = some info)
    (h : Relation.ReflTransGen r.HasBase a info.id) : ∃ steps, info ∈ r.chain steps a := by
  induction h using Relation.ReflTransGen.head_induction_on with
  | refl => exact ⟨1, mem_chain_succ_iff.2 ⟨info, hinfo, .inl rfl⟩⟩
  | head hbase _ ih =>
    obtain ⟨first, link, hfirst, hlink, rfl⟩ := hbase
    obtain ⟨steps, hsteps⟩ := ih
    exact ⟨steps + 1, mem_chain_succ_iff.2 ⟨first, hfirst, .inr ⟨link, hlink, hsteps⟩⟩⟩

theorem mem_ancestorIds_iff :
    b ∈ r.ancestorIds a ↔ r.contains b = true ∧ Relation.ReflTransGen r.HasBase a b := by
  rw [ancestorIds, List.mem_map, contains, Option.isSome_iff_exists]
  constructor
  · rintro ⟨info, hinfo, rfl⟩
    exact ⟨⟨info, find?_id_of_mem_chain hinfo⟩, reaches_of_mem_chain hinfo⟩
  · rintro ⟨⟨info, hinfo⟩, hreaches⟩
    obtain rfl := id_of_find? hinfo
    obtain ⟨steps, hsteps⟩ := exists_mem_chain_of_reaches hinfo hreaches
    exact ⟨info, mem_ancestors_of_mem_chain hsteps, rfl⟩

theorem isAssignable_iff : r.isAssignable a b = true ↔ a = b ∨ b ∈ r.ancestorIds a := by
  rw [isAssignable, Bool.or_eq_true, beq_iff_eq, List.any_eq_true, ancestorIds, List.mem_map]
  simp only [beq_iff_eq]

theorem reaches_of_isAssignable (h : r.isAssignable a b = true) :
    Relation.ReflTransGen r.HasBase a b := by
  rcases isAssignable_iff.1 h with rfl | hmem
  · exact .refl
  · exact (mem_ancestorIds_iff.1 hmem).2

/-! ## Assignability as an order -/

theorem isAssignable_self (r : Registry) (a : TypeId) : r.isAssignable a a = true :=
  isAssignable_iff.2 (.inl rfl)

theorem isAssignable_trans (hab : r.isAssignable a b = true) (hbc : r.isAssignable b c = true) :
    r.isAssignable a c = true := by
  rcases isAssignable_iff.1 hbc with rfl | hmem
  · exact hab
  · obtain ⟨hregistered, hreaches⟩ := mem_ancestorIds_iff.1 hmem
    have hac := (reaches_of_isAssignable hab).trans hreaches
    exact isAssignable_iff.2 (.inr (mem_ancestorIds_iff.2 ⟨hregistered, hac⟩))

/-- What lies above a type is a chain. -/
theorem isAssignable_or_isAssignable (hab : r.isAssignable a b = true)
    (hac : r.isAssignable a c = true) :
    r.isAssignable b c = true ∨ r.isAssignable c b = true := by
  rcases isAssignable_iff.1 hab with rfl | hb
  · exact .inl hac
  rcases isAssignable_iff.1 hac with rfl | hc
  · exact .inr hab
  obtain ⟨hbregistered, hbreaches⟩ := mem_ancestorIds_iff.1 hb
  obtain ⟨hcregistered, hcreaches⟩ := mem_ancestorIds_iff.1 hc
  -- From the type on there is one way only, and both types lie on it.
  rcases Relation.ReflTransGen.total_of_right_unique r.rightUnique_hasBase hbreaches hcreaches with
    hbc | hcb
  · exact .inl (isAssignable_iff.2 (.inr (mem_ancestorIds_iff.2 ⟨hcregistered, hbc⟩)))
  · exact .inr (isAssignable_iff.2 (.inr (mem_ancestorIds_iff.2 ⟨hbregistered, hcb⟩)))

/-- The ancestors of a type stand in this order. -/
theorem pairwise_isAssignable_chain (steps : Nat) (type : TypeId) :
    (r.chain steps type).Pairwise fun a b => r.isAssignable a.id b.id = true := by
  induction steps generalizing type with
  | zero => exact .nil
  | succ steps ih =>
    cases hfirst : r.find? type with
    | none =>
      rw [chain_eq_nil _ hfirst]
      exact .nil
    | some first =>
      have hall : ∀ info ∈ r.chain (steps + 1) type, r.isAssignable first.id info.id = true := by
        intro info hinfo
        rw [id_of_find? hfirst]
        exact isAssignable_of_mem_ancestors (mem_ancestors_of_mem_chain hinfo)
      rw [chain_succ_of_find? hfirst] at hall ⊢
      refine List.pairwise_cons.2 ⟨?_, ?_⟩
      · intro info hinfo
        exact hall info (List.mem_cons_of_mem first hinfo)
      · cases first.base with
        | none => exact .nil
        | some link => exact ih link.type

/-! ## Chains without cycles -/

theorem Acyclic.eq_of_reaches (hr : r.Acyclic) (hab : Relation.ReflTransGen r.HasBase a b)
    (hba : Relation.ReflTransGen r.HasBase b a) : a = b := by
  rcases Relation.reflTransGen_iff_eq_or_transGen.1 hab with heq | hlinks
  · exact heq.symm
  · exact absurd (hlinks.trans_left hba) (hr a)

theorem Acyclic.isAssignable_antisymm (hr : r.Acyclic) (hab : r.isAssignable a b = true)
    (hba : r.isAssignable b a = true) : a = b :=
  hr.eq_of_reaches (reaches_of_isAssignable hab) (reaches_of_isAssignable hba)

theorem Acyclic.nodup_chain (hr : r.Acyclic) (steps : Nat) (type : TypeId) :
    ((r.chain steps type).map TypeInfo.id).Nodup := by
  induction steps generalizing type with
  | zero => exact .nil
  | succ steps ih =>
    cases hfirst : r.find? type with
    | none => simp [chain_eq_nil _ hfirst]
    | some first =>
      rw [chain_succ_of_find? hfirst]
      cases hlink : first.base with
      | none => simp
      | some link =>
        refine List.nodup_cons.2 ⟨fun hagain => ?_, ih link.type⟩
        -- If the first type came again, its base links would lead back to it.
        obtain ⟨info, hinfo, hid⟩ := List.mem_map.1 hagain
        have hback := reaches_of_mem_chain hinfo
        rw [hid, id_of_find? hfirst] at hback
        exact hr type (.head' ⟨first, link, hfirst, hlink, rfl⟩ hback)

/-- A chain holds what the walk along the bases comes to. -/
theorem getElem?_chain {position steps : Nat} (h : position < steps) (type : TypeId) :
    (r.chain steps type)[position]? = r.ancestor? position type := by
  induction steps generalizing position type with
  | zero => cases h
  | succ steps ih =>
    cases hfirst : r.find? type with
    | none => cases position <;> simp [chain_eq_nil _ hfirst, ancestor?, hfirst]
    | some first =>
      rw [chain_succ_of_find? hfirst]
      cases position with
      | zero => exact hfirst.symm
      | succ position =>
        rw [List.getElem?_cons_succ, ancestor?, hfirst, Option.bind_some]
        cases first.base with
        | none => rfl
        | some link => exact ih (Nat.lt_of_succ_lt_succ h) link.type

/-- No chain without a cycle is longer than there are types. -/
theorem Acyclic.length_chain_le (hr : r.Acyclic) (steps : Nat) (type : TypeId) :
    (r.chain steps type).length ≤ r.size := by
  have hregistered : (r.chain steps type).map TypeInfo.id ⊆ r.entries.map TypeInfo.id := by
    intro id hid
    obtain ⟨info, hinfo, rfl⟩ := List.mem_map.1 hid
    exact List.mem_map_of_mem (mem_of_find? (find?_id_of_mem_chain hinfo))
  have hsub := (List.subperm_of_subset (hr.nodup_chain steps type) hregistered).length_le
  rwa [List.length_map, List.length_map] at hsub

/-- Past the number of types the walk is over. -/
theorem Acyclic.ancestor?_eq_none (hr : r.Acyclic) {position : Nat} (h : r.size ≤ position)
    (type : TypeId) : r.ancestor? position type = none := by
  rw [← getElem?_chain (Nat.lt_succ_self position)]
  exact List.getElem?_eq_none (Nat.le_trans (hr.length_chain_le _ type) h)

theorem Acyclic.ends (hr : r.Acyclic) (type : TypeId) : r.Ends type :=
  ⟨r.size, hr.ancestor?_eq_none (Nat.le_refl r.size) type⟩

/-- So every search along it ends, and bindings can be made. -/
theorem Acyclic.binding_ends (hr : r.Acyclic) (d : MemberDescriptor) : TargetBinding.Ends r d :=
  fun _ info _ _ => (hr.ends info.id).stops _

/-- The ancestors of a type are what the walk comes to, from its start to its end. -/
theorem Acyclic.getElem?_ancestors (hr : r.Acyclic) (position : Nat) (type : TypeId) :
    (r.ancestors type)[position]? = r.ancestor? position type := by
  rcases Nat.lt_or_ge position r.size with hlt | hge
  · exact getElem?_chain hlt type
  · rw [hr.ancestor?_eq_none hge]
    exact List.getElem?_eq_none (Nat.le_trans (hr.length_chain_le r.size type) hge)

/-- A chain that ends early is not continued by one more step. -/
theorem chain_succ_of_length_le {steps : Nat} {type : TypeId}
    (h : (r.chain (steps + 1) type).length ≤ steps) :
    r.chain (steps + 1) type = r.chain steps type := by
  induction steps generalizing type with
  | zero => exact List.eq_nil_of_length_eq_zero (Nat.le_zero.1 h)
  | succ steps ih =>
    cases hfirst : r.find? type with
    | none => rw [chain_eq_nil _ hfirst, chain_eq_nil _ hfirst]
    | some first =>
      rw [chain_succ_of_find? hfirst] at h ⊢
      rw [chain_succ_of_find? hfirst]
      cases hlink : first.base with
      | none => rfl
      | some link =>
        rw [hlink] at h
        exact congrArg (first :: ·) (ih (Nat.le_of_succ_le_succ h))

/-- The ancestors of a type are the type and the ancestors of its base: no chain without a cycle is
cut. -/
theorem Acyclic.ancestors_of_find? (hr : r.Acyclic) {first : TypeInfo}
    (hfirst : r.find? a = some first) :
    r.ancestors a = first :: first.base.elim [] fun link => r.ancestors link.type := by
  -- One step more than there are types adds nothing, and it shows the first one.
  rw [ancestors, ← chain_succ_of_length_le (hr.length_chain_le (r.size + 1) a),
    chain_succ_of_find? hfirst]
  rfl

/-! ## Steps to an ancestor -/

theorem exists_upcastPath?_iff :
    (∃ path, r.upcastPath? a b = some path) ↔ b ∈ r.ancestorIds a := by
  rw [ancestorIds, List.mem_map]
  constructor
  · rintro ⟨path, hpath⟩
    exact exists_mem_of_pathTo? hpath
  · rintro ⟨info, hinfo, rfl⟩
    exact exists_pathTo?_of_mem_chain hinfo

/-- There are as many steps to a type as types before it. -/
theorem length_of_pathTo? {expected : TypeId} {chain : List TypeInfo} {path : List Upcast}
    (h : pathTo? expected chain = some path) :
    path.length = (chain.map TypeInfo.id).idxOf expected := by
  induction chain generalizing path with
  | nil => cases h
  | cons info chain ih =>
    rw [pathTo?] at h
    rw [List.map_cons]
    by_cases hid : info.id = expected
    · rw [if_pos hid, Option.some.injEq] at h
      simp [← h, hid]
    · simp only [if_neg hid, Option.bind_eq_bind, Option.bind_eq_some_iff,
        Option.some.injEq] at h
      obtain ⟨step, -, rest, hrest, rfl⟩ := h
      rw [List.idxOf_cons_ne _ hid, List.length_cons, ih hrest]

/-- The first step to another type is the one to the base. -/
theorem Acyclic.upcastPath?_of_ne (hr : r.Acyclic) {first : TypeInfo}
    (hfirst : r.find? a = some first) (hab : a ≠ b) :
    r.upcastPath? a b =
      first.base.bind fun link => (r.upcastPath? link.type b).map (⟨a, link⟩ :: ·) := by
  rw [upcastPath?, hr.ancestors_of_find? hfirst, pathTo?, id_of_find? hfirst, if_neg hab,
    TypeInfo.upcast?, id_of_find? hfirst]
  cases first.base with
  | none => rfl
  | some link => exact Option.map_eq_bind.symm

/-- The steps to a type: none from the type itself, and else the step to the base and the steps
from there. -/
theorem Acyclic.upcastPath?_eq_some_iff (hr : r.Acyclic) {path : List Upcast} :
    r.upcastPath? a b = some path ↔
      ∃ first, r.find? a = some first ∧
        (a = b ∧ path = [] ∨
          a ≠ b ∧ ∃ link rest, first.base = some link ∧
            r.upcastPath? link.type b = some rest ∧ ⟨a, link⟩ :: rest = path) := by
  cases hfirst : r.find? a with
  | none => simp [upcastPath?, ancestors_eq_nil hfirst, pathTo?]
  | some first =>
    by_cases hab : a = b
    · subst hab
      simp [upcastPath?_self hfirst, eq_comm]
    · simp [hr.upcastPath?_of_ne hfirst hab, hab, Option.bind_eq_some_iff]

theorem reaches_of_upcastPath? {path : List Upcast} (h : r.upcastPath? a b = some path) :
    Relation.ReflTransGen r.HasBase a b :=
  (mem_ancestorIds_iff.1 (exists_upcastPath?_iff.1 ⟨path, h⟩)).2

/-- The steps over a type on the way are the steps to it and the steps from it. -/
theorem Acyclic.upcastPath?_append (hr : r.Acyclic) {first second : List Upcast}
    (hab : r.upcastPath? a b = some first) (hbc : r.upcastPath? b c = some second) :
    r.upcastPath? a c = some (first ++ second) := by
  induction first generalizing a with
  | nil =>
    obtain ⟨_, _, ⟨rfl, _⟩ | ⟨_, _, _, _, _, hcons⟩⟩ := hr.upcastPath?_eq_some_iff.1 hab
    · exact hbc
    · cases hcons
  | cons step steps ih =>
    obtain ⟨info, hinfo, ⟨-, hnil⟩ | ⟨hne, link, rest, hlink, hrest, hcons⟩⟩ :=
      hr.upcastPath?_eq_some_iff.1 hab
    · cases hnil
    · cases hcons
      -- The first type is passed once: links from the last one do not lead back to it.
      have hac : a ≠ c := by
        rintro rfl
        exact hne (hr.eq_of_reaches (reaches_of_upcastPath? hab) (reaches_of_upcastPath? hbc))
      exact hr.upcastPath?_eq_some_iff.2
        ⟨info, hinfo, .inr ⟨hac, link, steps ++ second, hlink, ih hrest, rfl⟩⟩

end Registry

/-- Steps one after the other lead from part to part. -/
theorem Upcast.follow?_append (use : TargetUse) (first second : List Upcast) (target : Target) :
    follow? use (first ++ second) target =
      (follow? use first target).bind (follow? use second) := by
  induction first generalizing target with
  | nil => rfl
  | cons step first ih =>
    rw [List.cons_append, follow?, follow?]
    cases step.part? use target with
    | none => rfl
    | some part => exact ih part

namespace Registry

variable {r : Registry} {a b : TypeId}

theorem follow?_of_upcastPath? {path : List Upcast} (h : r.upcastPath? a b = some path)
    (use : TargetUse) (address : Address) :
    ∃ part, Upcast.follow? use path ⟨address, a⟩ = some part ∧ part.type = b := by
  obtain ⟨part, hpart, hasPart⟩ := follow?_of_pathTo? h use address
  exact ⟨part, hpart, hasPart.type_eq⟩

/-- The laws of a hierarchy. -/
structure Coherent (r : Registry) : Prop where
  /-- The ancestors of a type are its walk along the bases, which ends. -/
  walk : ∀ position a, (r.ancestors a)[position]? = r.ancestor? position a
  /-- The ancestors of a type are the type and the ancestors of its base. There are none from a type
  on that is not registered. -/
  ancestors_eq : ∀ a, r.ancestors a = (r.find? a).elim [] fun first =>
    first :: first.base.elim [] fun link => r.ancestors link.type
  /-- No type is listed twice. -/
  distinct : ∀ a, (r.ancestorIds a).Nodup
  refl : ∀ a, r.isAssignable a a = true
  trans : ∀ a b c, r.isAssignable a b = true → r.isAssignable b c = true →
    r.isAssignable a c = true
  antisymm : ∀ a b, r.isAssignable a b = true → r.isAssignable b a = true → a = b
  /-- Two types that a type is assignable to are comparable. -/
  comparable : ∀ a b c, r.isAssignable a b = true → r.isAssignable a c = true →
    r.isAssignable b c = true ∨ r.isAssignable c b = true
  /-- There are steps exactly to the ancestors. -/
  path_iff : ∀ a b, (∃ path, r.upcastPath? a b = some path) ↔ b ∈ r.ancestorIds a
  /-- As many steps as the position of the ancestor says. -/
  path_length : ∀ a b path, r.upcastPath? a b = some path →
    path.length = (r.ancestorIds a).idxOf b
  /-- The steps to an ancestor lead over each ancestor before it, and to the same part for one use
  of the target. -/
  path_append : ∀ a b c, b ∈ r.ancestorIds a → c ∈ r.ancestorIds b →
    ∃ first second, r.upcastPath? a b = some first ∧ r.upcastPath? b c = some second ∧
      r.upcastPath? a c = some (first ++ second) ∧
      ∀ use address, ∃ middle part, middle.type = b ∧ part.type = c ∧
        Upcast.follow? use first ⟨address, a⟩ = some middle ∧
        Upcast.follow? use second middle = some part ∧
        Upcast.follow? use (first ++ second) ⟨address, a⟩ = some part

/-- A hierarchy without cycles is coherent. -/
theorem Acyclic.coherent (hr : r.Acyclic) : r.Coherent where
  walk position a := hr.getElem?_ancestors position a
  ancestors_eq a := by
    cases hfirst : r.find? a with
    | none => exact ancestors_eq_nil hfirst
    | some first => exact hr.ancestors_of_find? hfirst
  distinct a := hr.nodup_chain r.size a
  refl a := r.isAssignable_self a
  trans _ _ _ hab hbc := isAssignable_trans hab hbc
  antisymm _ _ hab hba := hr.isAssignable_antisymm hab hba
  comparable _ _ _ hab hac := isAssignable_or_isAssignable hab hac
  path_iff _ _ := exists_upcastPath?_iff
  path_length _ _ _ hpath := length_of_pathTo? hpath
  path_append a b c hb hc := by
    obtain ⟨first, hfirst⟩ := exists_upcastPath?_iff.2 hb
    obtain ⟨second, hsecond⟩ := exists_upcastPath?_iff.2 hc
    refine ⟨first, second, hfirst, hsecond, hr.upcastPath?_append hfirst hsecond,
      fun use address => ?_⟩
    obtain ⟨⟨whole, _⟩, hmiddle, rfl⟩ := follow?_of_upcastPath? hfirst use address
    obtain ⟨part, hpart, htype⟩ := follow?_of_upcastPath? hsecond use whole
    refine ⟨⟨whole, _⟩, part, rfl, htype, hmiddle, hpart, ?_⟩
    rw [Upcast.follow?_append, hmiddle]
    exact hpart

/-- Numbers that fall along every base link rule cycles out. -/
theorem acyclic_of_rank (rank : TypeId → Nat)
    (h : ∀ info ∈ r.entries, ∀ link ∈ info.base, rank link.type < rank info.id) :
    r.Acyclic := by
  have hfalls : ∀ a b, Relation.TransGen r.HasBase a b → rank b < rank a := by
    intro a b hlinks
    induction hlinks with
    | single hbase =>
      obtain ⟨info, link, hinfo, hlink, rfl⟩ := hbase
      rw [← id_of_find? hinfo]
      exact h info (mem_of_find? hinfo) link hlink
    | tail _ hbase ih =>
      obtain ⟨info, link, hinfo, hlink, rfl⟩ := hbase
      have hlast := h info (mem_of_find? hinfo) link hlink
      rw [id_of_find? hinfo] at hlast
      exact Nat.lt_trans hlast ih
  exact fun type hcycle => Nat.lt_irrefl (rank type) (hfalls type type hcycle)

end Registry

/-! ## A chain with an open end -/

namespace Kinship

def being : TypeId := .named "Being"

def person : TypeId := .named "Person"

def employee : TypeId := .named "Employee"

def manager : TypeId := .named "Manager"

/-- A type that has nothing but a base, whose instance is a part of each instance. -/
def derived (type base : TypeId) : TypeInfo :=
  { TypeInfo.ofInterface type with kind := .ordinary, base := some (.embedded base) }

/-- Managers are employees, employees are persons, and what persons are is not registered. -/
def registry : Registry :=
  ((Registry.empty.insert (derived manager employee)).insert (derived employee person)).insert
    (derived person being)

/-- How far a type is from the end of its chain. -/
def height (type : TypeId) : Nat :=
  [being, person, employee, manager].idxOf type

theorem acyclic_registry : registry.Acyclic :=
  Registry.acyclic_of_rank height (by decide)

/-- A chain that ends at a base without description is coherent. -/
theorem coherent_registry :
    registry.Acyclic ∧ registry.ancestorIds manager = [manager, employee, person] ∧
      registry.contains being = false ∧ registry.Coherent :=
  ⟨acyclic_registry, rfl, rfl, acyclic_registry.coherent⟩

/-- Two types, each of which claims to be derived from the other one, are assignable to each
other. -/
example :
    let ring := (Registry.empty.insert (derived manager employee)).insert
      (derived employee manager)
    ring.isAssignable manager employee = true ∧ ring.isAssignable employee manager = true :=
  ⟨rfl, rfl⟩

end Kinship

end Reflection
