import Mathlib.Logic.Relation
import Reflection.Registry.Registration

/-!
# The walk of a registration

Registering a type walks from it through bases and dependencies and stops at every type that is
registered already. So the walk adds exactly the types at the end of a path on which no type was
registered before (`Catalog.FreshPath`, `Catalog.find?_registerAll_iff`), however the paths branch,
meet or run in circles. The list of pending types that `Catalog.registerAll` keeps stands for nested
calls: `Catalog.Registers` is the recursion over one type after the other, and the two agree
(`Catalog.registers_iff`).

Main statement: `Catalog.closes_register`.
-/

set_option autoImplicit false

namespace Reflection

namespace TypeDraft

/-- A draft without fault is built, and keeps its base. -/
theorem exists_build_of_fault?_eq_none {draft : TypeDraft} (h : draft.fault? = none) :
    ∃ info, draft.build = .ok info ∧ info.base = draft.base := by
  unfold build
  split
  · rename_i fault hfault
    rw [h] at hfault
    cases hfault
  · exact ⟨_, rfl, rfl⟩

theorem base_of_build {draft : TypeDraft} {info : TypeInfo} (h : draft.build = .ok info) :
    info.base = draft.base := by
  unfold build at h
  split at h
  · cases h
  · cases h
    rfl

end TypeDraft

/-! ## Insertion -/

namespace Registry

variable {r : Registry} {info : TypeInfo} {type : TypeId}

theorem contains_iff : r.contains type = true ↔ ∃ info, r.find? type = some info := by
  rw [contains, Option.isSome_iff_exists]

theorem find?_eq_none_iff : r.find? type = none ↔ r.contains type = false := by
  rw [contains, Option.isSome_eq_false_iff, Option.isNone_iff_eq_none]

/-- Of a new description nothing else changes than that its type has it. -/
theorem find?_insert_of_new (hnew : r.contains info.id = false) (type : TypeId) :
    (r.insert info).find? type = if info.id = type then some info else r.find? type := by
  rw [insert, dif_pos hnew, find?_add]

theorem contains_insert_eq_false_iff (hnew : r.contains info.id = false) :
    (r.insert info).contains type = false ↔ r.contains type = false ∧ type ≠ info.id := by
  rw [← find?_eq_none_iff, ← find?_eq_none_iff, find?_insert_of_new hnew]
  by_cases hid : info.id = type
  · simp [hid]
  · simp [hid, Ne.symm hid]

theorem autoRegistered_insert (r : Registry) (info : TypeInfo) :
    (r.insert info).autoRegistered = r.autoRegistered := by
  unfold insert
  split <;> rfl

end Registry

/-- The types that are registered with a type: its base first, then its dependencies. -/
def Description.needs (d : Description) : List TypeId :=
  d.draft.base.toList.map BaseInfo.type ++ d.dependencies

namespace Catalog

/-- Every description can be built, and every type that a description needs is described. -/
structure WellFormed (c : Catalog) : Prop where
  builds : ∀ d ∈ c.descriptions, d.draft.fault? = none
  described : ∀ d ∈ c.descriptions, ∀ type ∈ d.needs, (c.describe? type).isSome

/-- The first type is registered with the second one. -/
def Needs (c : Catalog) (type other : TypeId) : Prop :=
  ∃ d, c.describe? type = some d ∧ other ∈ d.needs

/-- A type's own description. -/
def infoOf? (c : Catalog) (type : TypeId) : Option TypeInfo :=
  (c.describe? type).bind fun d => d.draft.build.toOption

/-- A path of needs, all of whose types are absent from a registry. -/
inductive FreshPath (c : Catalog) (r : Registry) : TypeId → TypeId → Prop
  | here {type : TypeId} : r.contains type = false → FreshPath c r type type
  | step {type next last : TypeId} : r.contains type = false → c.Needs type next →
      FreshPath c r next last → FreshPath c r type last

/-- Registration as a recursion. A type that is there is done; any other one is described, and then
all that it needs is registered before the rest. -/
inductive Registers (c : Catalog) : List TypeId → Registry → Registry → Prop
  | done (r : Registry) : Registers c [] r r
  | present {type : TypeId} {rest : List TypeId} {r after : Registry} :
      r.contains type = true → Registers c rest r after → Registers c (type :: rest) r after
  | added {type : TypeId} {rest : List TypeId} {r middle after : Registry} {d : Description}
      {info : TypeInfo} : r.contains type = false → c.describe? type = some d →
      d.draft.build = .ok info → Registers c d.needs (r.insert info) middle →
      Registers c rest middle after → Registers c (type :: rest) r after

variable {c : Catalog} {r : Registry}

theorem id_of_describe?_of_build {type : TypeId} {d : Description} {info : TypeInfo}
    (hd : c.describe? type = some d) (hb : d.draft.build = .ok info) : info.id = type := by
  rw [TypeDraft.id_of_build hb, describe?_id hd]

theorem infoOf?_eq_some_iff {type : TypeId} {info : TypeInfo} :
    c.infoOf? type = some info ↔ ∃ d, c.describe? type = some d ∧ d.draft.build = .ok info := by
  rw [infoOf?, Option.bind_eq_some_iff]
  refine exists_congr fun d => and_congr_right fun _ => ?_
  cases d.draft.build <;> simp [Except.toOption]

theorem WellFormed.exists_infoOf? (h : c.WellFormed) {type : TypeId}
    (hdescribed : (c.describe? type).isSome) : ∃ info, c.infoOf? type = some info := by
  obtain ⟨d, hd⟩ := Option.isSome_iff_exists.1 hdescribed
  obtain ⟨info, hb, -⟩ :=
    TypeDraft.exists_build_of_fault?_eq_none (h.builds d (describe?_mem hd))
  exact ⟨info, infoOf?_eq_some_iff.2 ⟨d, hd, hb⟩⟩

theorem WellFormed.build_ne_error (h : c.WellFormed) {type : TypeId} {d : Description}
    (hd : c.describe? type = some d) (fault : BuildError) : d.draft.build ≠ .error fault := by
  obtain ⟨info, hok, -⟩ :=
    TypeDraft.exists_build_of_fault?_eq_none (h.builds d (describe?_mem hd))
  intro hb
  rw [hb] at hok
  cases hok

theorem WellFormed.isSome_of_needs (h : c.WellFormed) {type other : TypeId}
    (hneeds : c.Needs type other) : (c.describe? other).isSome := by
  obtain ⟨d, hd, hmem⟩ := hneeds
  exact h.described d (describe?_mem hd) other hmem

/-! ## Paths -/

namespace FreshPath

variable {type next last : TypeId}

theorem absent (h : c.FreshPath r type last) : r.contains last = false := by
  induction h with
  | here habsent => exact habsent
  | step _ _ _ ih => exact ih

theorem absent_head (h : c.FreshPath r type last) : r.contains type = false := by
  cases h with
  | here habsent => exact habsent
  | step habsent _ _ => exact habsent

theorem isSome_describe? (h : c.FreshPath r type last) (hc : c.WellFormed)
    (htype : (c.describe? type).isSome) : (c.describe? last).isSome := by
  induction h with
  | here => exact htype
  | step _ hneeds _ ih => exact ih (hc.isSome_of_needs hneeds)

theorem reachable (h : c.FreshPath r type last) : Relation.ReflTransGen c.Needs type last := by
  induction h with
  | here => exact .refl
  | step _ hneeds _ ih => exact .head hneeds ih

/-- What is absent after an insertion was absent before it. -/
theorem of_insert {info : TypeInfo} (hnew : r.contains info.id = false)
    (h : c.FreshPath (r.insert info) type last) : c.FreshPath r type last := by
  induction h with
  | here habsent => exact .here ((Registry.contains_insert_eq_false_iff hnew).1 habsent).1
  | step habsent hneeds _ ih =>
    exact .step ((Registry.contains_insert_eq_false_iff hnew).1 habsent).1 hneeds ih

/-- A path that meets the inserted type goes on, after the last meeting, from one of the types that
it needs; any other path is a path after the insertion too. -/
theorem insert_cases {info : TypeInfo} (hnew : r.contains info.id = false)
    (h : c.FreshPath r type last) :
    last = info.id ∨ c.FreshPath (r.insert info) type last ∨
      ∃ next, c.Needs info.id next ∧ c.FreshPath (r.insert info) next last := by
  induction h with
  | @here type habsent =>
    by_cases htype : type = info.id
    · exact .inl htype
    · exact .inr (.inl (.here
        ((Registry.contains_insert_eq_false_iff hnew).2 ⟨habsent, htype⟩)))
  | @step type next last habsent hneeds _ ih =>
    rcases ih with hlast | hrest | hafter
    · exact .inl hlast
    · by_cases htype : type = info.id
      · subst htype
        exact .inr (.inr ⟨next, hneeds, hrest⟩)
      · exact .inr (.inl (.step
          ((Registry.contains_insert_eq_false_iff hnew).2 ⟨habsent, htype⟩) hneeds hrest))
    · exact .inr (.inr hafter)

end FreshPath

/-- The invariant of the walk. When a type is added, the paths from what it needs and from the rest
of the list reach, after the insertion, what the paths from the whole list reached before it, but
for the type itself. -/
theorem exists_freshPath_insert_iff {type last : TypeId} {rest : List TypeId} {d : Description}
    {info : TypeInfo} (hnew : r.contains type = false) (hd : c.describe? type = some d)
    (hid : info.id = type) :
    (∃ next ∈ d.needs ++ rest, c.FreshPath (r.insert info) next last) ↔
      last ≠ type ∧ ∃ next ∈ type :: rest, c.FreshPath r next last := by
  subst hid
  constructor
  · rintro ⟨next, hnext, hpath⟩
    have hlast := (Registry.contains_insert_eq_false_iff hnew).1 hpath.absent
    refine ⟨hlast.2, ?_⟩
    rcases List.mem_append.1 hnext with hneeds | hrest
    · exact ⟨info.id, List.mem_cons_self, .step hnew ⟨d, hd, hneeds⟩ (hpath.of_insert hnew)⟩
    · exact ⟨next, List.mem_cons_of_mem _ hrest, hpath.of_insert hnew⟩
  · rintro ⟨hlast, next, hnext, hpath⟩
    rcases hpath.insert_cases hnew with hself | hrest | ⟨other, ⟨d', hd', hneeds⟩, hother⟩
    · exact absurd hself hlast
    · rcases List.mem_cons.1 hnext with rfl | hmem
      · -- The inserted type is no longer absent, so no path starts from it.
        exact absurd rfl ((Registry.contains_insert_eq_false_iff hnew).1 hrest.absent_head).2
      · exact ⟨next, List.mem_append_right _ hmem, hrest⟩
    · obtain rfl : d = d' := Option.some.inj (hd.symm.trans hd')
      exact ⟨other, List.mem_append_left _ hneeds, hother⟩

/-! ## The walk -/

theorem registerAll_of_contains {type : TypeId} {rest : List TypeId}
    (h : r.contains type = true) : c.registerAll (type :: rest) r = c.registerAll rest r := by
  rw [registerAll, dif_pos h]

theorem registerAll_of_describe?_eq_none {type : TypeId} {rest : List TypeId}
    (h : c.describe? type = none) : c.registerAll (type :: rest) r = c.registerAll rest r := by
  rw [registerAll]
  split
  · rfl
  · split
    · rfl
    · rename_i hd
      rw [h] at hd
      cases hd

theorem needs_of_build {d : Description} {info : TypeInfo} (hb : d.draft.build = .ok info) :
    info.base.toList.map BaseInfo.type ++ d.dependencies = d.needs := by
  rw [TypeDraft.base_of_build hb, Description.needs]

theorem fault_registerAll (hc : c.WellFormed) (work : List TypeId) (r : Registry) :
    (c.registerAll work r).fault = none := by
  fun_induction registerAll c work r with
  | case1 r => rfl
  | case2 r type rest hpresent ih => exact ih
  | case3 r type rest hnew hd ih => exact ih
  | case4 r type rest hnew d hd fault hb => exact absurd hb (hc.build_ne_error hd fault)
  | case5 r type rest hnew d hd info hb ih => exact ih

theorem autoRegistered_registerAll (c : Catalog) (work : List TypeId) (r : Registry) :
    (c.registerAll work r).registry.autoRegistered = r.autoRegistered := by
  fun_induction registerAll c work r with
  | case1 r => rfl
  | case2 r type rest hpresent ih => exact ih
  | case3 r type rest hnew hd ih => exact ih
  | case4 r type rest hnew d hd fault hb => rfl
  | case5 r type rest hnew d hd info hb ih => rw [ih, Registry.autoRegistered_insert]

/-- The walk keeps what is there and adds, with its own description, what a path of absent types
leads to. -/
theorem find?_registerAll_iff (hc : c.WellFormed) (work : List TypeId) (r : Registry)
    (last : TypeId) (found : TypeInfo) :
    (c.registerAll work r).registry.find? last = some found ↔
      r.find? last = some found ∨
        c.infoOf? last = some found ∧ ∃ type ∈ work, c.FreshPath r type last := by
  fun_induction registerAll c work r with
  | case1 r => simp
  | case2 r type rest hpresent ih =>
    have hnone : ¬ c.FreshPath r type last := fun hpath => by
      rw [hpath.absent_head] at hpresent
      cases hpresent
    rw [ih]
    simp [hnone]
  | case3 r type rest hnew hd ih =>
    have hnone : c.infoOf? last = some found → ¬ c.FreshPath r type last := by
      intro hinfo hpath
      cases hpath with
      | here => simp [infoOf?, hd] at hinfo
      | step _ hneeds _ =>
        obtain ⟨d, hd', -⟩ := hneeds
        rw [hd] at hd'
        cases hd'
    rw [ih]
    refine or_congr_right (and_congr_right fun hinfo => ?_)
    simp [hnone hinfo]
  | case4 r type rest hnew d hd fault hb => exact absurd hb (hc.build_ne_error hd fault)
  | case5 r type rest hnew d hd info hb ih =>
    have hid := id_of_describe?_of_build hd hb
    have habsent : r.contains type = false := by simpa using hnew
    rw [needs_of_build hb] at ih ⊢
    rw [ih, exists_freshPath_insert_iff habsent hd hid,
      Registry.find?_insert_of_new (by rwa [hid]), hid]
    by_cases hlast : type = last
    · -- The type itself was absent, and the path of no step leads to it.
      subst hlast
      have hinfo : c.infoOf? type = some info := infoOf?_eq_some_iff.2 ⟨d, hd, hb⟩
      have hfind : r.find? type = none := Registry.find?_eq_none_iff.2 habsent
      have hpath : c.FreshPath r type type := .here habsent
      simp [hinfo, hfind, hpath]
    · simp [hlast, Ne.symm hlast]

/-! ## The recursion -/

namespace Registers

theorem split {front back : List TypeId} {r after : Registry}
    (h : c.Registers (front ++ back) r after) :
    ∃ middle, c.Registers front r middle ∧ c.Registers back middle after := by
  generalize hwork : front ++ back = work at h
  induction h generalizing front with
  | done r =>
    obtain ⟨rfl, rfl⟩ := List.append_eq_nil_iff.1 hwork
    exact ⟨r, .done r, .done r⟩
  | @present type rest r after hpresent hrest ih =>
    cases front with
    | nil =>
      rw [List.nil_append] at hwork
      exact ⟨r, .done r, by rw [hwork]; exact .present hpresent hrest⟩
    | cons first front =>
      obtain ⟨rfl, hwork'⟩ := List.cons.inj hwork
      obtain ⟨middle, hfront, hback⟩ := ih hwork'
      exact ⟨middle, .present hpresent hfront, hback⟩
  | @added type rest r middle after d info hnew hd hb hneeds hrest _ ih =>
    cases front with
    | nil =>
      rw [List.nil_append] at hwork
      exact ⟨r, .done r, by rw [hwork]; exact .added hnew hd hb hneeds hrest⟩
    | cons first front =>
      obtain ⟨rfl, hwork'⟩ := List.cons.inj hwork
      obtain ⟨between, hfront, hback⟩ := ih hwork'
      exact ⟨between, .added hnew hd hb hneeds hfront, hback⟩

/-- The recursion leaves one registry behind. -/
theorem unique {work : List TypeId} {r after other : Registry} (h : c.Registers work r after)
    (hother : c.Registers work r other) : after = other := by
  induction h generalizing other with
  | done r =>
    cases hother
    rfl
  | present hpresent _ ih =>
    cases hother with
    | present _ hrest => exact ih hrest
    | added hnew =>
      rw [hpresent] at hnew
      cases hnew
  | added hnew hd hb _ _ ihneeds ihrest =>
    cases hother with
    | present hpresent =>
      rw [hnew] at hpresent
      cases hpresent
    | added _ hd' hb' hneeds hrest =>
      rw [hd, Option.some.injEq] at hd'
      subst hd'
      rw [hb, Except.ok.injEq] at hb'
      subst hb'
      obtain rfl := ihneeds hneeds
      exact ihrest hrest

end Registers

/-- The recursion comes to an end on every list of described types, and the walk computes it. -/
theorem registers_registerAll (hc : c.WellFormed) {work : List TypeId}
    (hwork : ∀ type ∈ work, (c.describe? type).isSome) (r : Registry) :
    c.Registers work r (c.registerAll work r).registry := by
  fun_induction registerAll c work r with
  | case1 r => exact .done r
  | case2 r type rest hpresent ih =>
    exact .present hpresent (ih fun other hother => hwork other (List.mem_cons_of_mem _ hother))
  | case3 r type rest hnew hd ih =>
    have hsome := hwork type List.mem_cons_self
    rw [hd] at hsome
    cases hsome
  | case4 r type rest hnew d hd fault hb => exact absurd hb (hc.build_ne_error hd fault)
  | case5 r type rest hnew d hd info hb ih =>
    rw [needs_of_build hb] at ih ⊢
    have hpending : ∀ other ∈ d.needs ++ rest, (c.describe? other).isSome := by
      intro other hother
      rcases List.mem_append.1 hother with hneeds | hrest
      · exact hc.described d (describe?_mem hd) other hneeds
      · exact hwork other (List.mem_cons_of_mem _ hrest)
    obtain ⟨middle, hneeds, hrest⟩ := (ih hpending).split
    exact .added (by simpa using hnew) hd hb hneeds hrest

theorem registers_iff (hc : c.WellFormed) {type : TypeId}
    (htype : (c.describe? type).isSome) (r after : Registry) :
    c.Registers [type] r after ↔ after = (c.register type r).registry := by
  have hends : c.Registers [type] r (c.register type r).registry :=
    registers_registerAll hc (by simpa using htype) r
  constructor
  · intro h
    exact h.unique hends
  · rintro rfl
    exact hends

/-- What registering a type makes of a registry. -/
structure Closes (c : Catalog) (type : TypeId) (before : Registry) (after : Registration) :
    Prop where
  /-- The recursion over all that the type needs comes to an end, and this is where it ends. -/
  ends : ∀ r, c.Registers [type] before r ↔ r = after.registry
  completes : after.fault = none
  kept : ∀ other info, before.find? other = some info → after.registry.find? other = some info
  /-- A path of types that were absent leads to a type that is added, with its own description. -/
  added : ∀ other, c.FreshPath before type other →
    ∃ info, c.infoOf? other = some info ∧ after.registry.find? other = some info
  /-- No other type is added. -/
  unreached : ∀ other, ¬ c.FreshPath before type other →
    after.registry.find? other = before.find? other

theorem closes_register (hc : c.WellFormed) {type : TypeId} (htype : (c.describe? type).isSome)
    (r : Registry) : c.Closes type r (c.register type r) := by
  have hfind : ∀ other info, (c.register type r).registry.find? other = some info ↔
      r.find? other = some info ∨ c.infoOf? other = some info ∧ c.FreshPath r type other := by
    intro other info
    rw [register, find?_registerAll_iff hc]
    simp
  refine ⟨registers_iff hc htype r, fault_registerAll hc [type] r, ?_, ?_, ?_⟩
  · intro other info hbefore
    exact (hfind other info).2 (.inl hbefore)
  · intro other hpath
    obtain ⟨info, hinfo⟩ := hc.exists_infoOf? (hpath.isSome_describe? hc htype)
    exact ⟨info, hinfo, (hfind other info).2 (.inr ⟨hinfo, hpath⟩)⟩
  · intro other hpath
    refine Option.ext fun info => ?_
    rw [hfind]
    simp [hpath]

end Catalog

end Reflection
