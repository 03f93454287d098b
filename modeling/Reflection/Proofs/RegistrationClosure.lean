import Reflection.Proofs.Hierarchy
import Reflection.Proofs.RegistrationWalk

/-!
# Closure under registration

From the registry without descriptions, every list of calls leaves behind what can be reached from
the types that its calls ask for, and nothing else: one call keeps this
(`Catalog.Grown.perform`), so a list of calls does (`Catalog.Grown.performAll`). Submitted types are
registered once, and they are asked for by the first call that registers them.

Main statement: `Catalog.registration_closure`.
-/

set_option autoImplicit false

namespace Reflection

/-- A call that registers described types. -/
inductive RegistryCall where
  | register (type : TypeId)
  | autoRegister

/-- The types that a call asks for, where `submitted` are the submitted ones. -/
def RegistryCall.asks (submitted : List TypeId) : RegistryCall → List TypeId
  | register type => [type]
  | autoRegister => submitted

/-- The types that a list of calls asks for. -/
def askedBy (submitted : List TypeId) (calls : List RegistryCall) : List TypeId :=
  calls.flatMap (RegistryCall.asks submitted)

namespace Catalog

/-- What one call leaves behind. -/
def perform (c : Catalog) (submitted : List TypeId) (r : Registry) : RegistryCall → Registration
  | .register type => c.register type r
  | .autoRegister => c.autoRegister submitted r

/-- What a list of calls leaves behind; a fault ends it. -/
def performAll (c : Catalog) (submitted : List TypeId) (r : Registry) :
    List RegistryCall → Registration
  | [] => ⟨r, none⟩
  | call :: calls =>
    let out := c.perform submitted r call
    if out.fault.isSome then out else c.performAll submitted out.registry calls

/-- A type can be reached from one of the types of a list. -/
def ReachedFrom (c : Catalog) (roots : List TypeId) (type : TypeId) : Prop :=
  ∃ root ∈ roots, Relation.ReflTransGen c.Needs root type

/-- The registry holds what can be reached from the types of a list, each type with its own
description, and nothing else. -/
def HoldsReached (c : Catalog) (roots : List TypeId) (r : Registry) : Prop :=
  ∀ type info, r.find? type = some info ↔ c.infoOf? type = some info ∧ c.ReachedFrom roots type

/-- What calls have made of the registry without descriptions. -/
structure Grown (c : Catalog) (submitted : List TypeId) (calls : List RegistryCall)
    (r : Registry) : Prop where
  holds : c.HoldsReached (askedBy submitted calls) r
  autoRegistered_iff : r.autoRegistered = true ↔ .autoRegister ∈ calls

variable {c : Catalog} {r : Registry}

theorem reachedFrom_append_iff {roots more : List TypeId} {type : TypeId} :
    c.ReachedFrom (roots ++ more) type ↔ c.ReachedFrom roots type ∨ c.ReachedFrom more type := by
  simp only [ReachedFrom, List.mem_append, or_and_right, exists_or]

namespace HoldsReached

variable {roots : List TypeId}

/-- Nothing on the way to a type that is not reached yet is registered. -/
theorem freshPath (h : c.HoldsReached roots r) {type last : TypeId}
    (hpath : Relation.ReflTransGen c.Needs type last) (hlast : ¬ c.ReachedFrom roots last) :
    c.FreshPath r type last := by
  have habsent : ∀ next, Relation.ReflTransGen c.Needs next last → r.contains next = false := by
    intro next hnext
    rw [← Registry.find?_eq_none_iff, Option.eq_none_iff_forall_ne_some]
    intro info hinfo
    obtain ⟨-, root, hroot, hreach⟩ := (h next info).1 hinfo
    exact hlast ⟨root, hroot, hreach.trans hnext⟩
  induction hpath using Relation.ReflTransGen.head_induction_on with
  | refl => exact .here (habsent last .refl)
  | head hneeds hrest ih => exact .step (habsent _ (.head hneeds hrest)) hneeds ih

/-- The walk adds what can be reached from its list. -/
theorem registerAll (hc : c.WellFormed) (h : c.HoldsReached roots r) (work : List TypeId) :
    c.HoldsReached (roots ++ work) (c.registerAll work r).registry := by
  intro type info
  rw [find?_registerAll_iff hc, h type info, reachedFrom_append_iff]
  constructor
  · rintro (⟨hinfo, hroots⟩ | ⟨hinfo, root, hroot, hpath⟩)
    · exact ⟨hinfo, .inl hroots⟩
    · exact ⟨hinfo, .inr ⟨root, hroot, hpath.reachable⟩⟩
  · rintro ⟨hinfo, hreached⟩
    by_cases hroots : c.ReachedFrom roots type
    · exact .inl ⟨hinfo, hroots⟩
    · obtain ⟨root, hroot, hpath⟩ := hreached.resolve_left hroots
      exact .inr ⟨hinfo, root, hroot, h.freshPath hpath hroots⟩

/-- The base of a registered type is registered. -/
theorem contains_base (hc : c.WellFormed) (h : c.HoldsReached roots r) {type base : TypeId}
    (hbase : r.HasBase type base) : r.contains base = true := by
  obtain ⟨info, link, hfind, hlink, rfl⟩ := hbase
  obtain ⟨hinfo, root, hroot, hreach⟩ := (h type info).1 hfind
  obtain ⟨d, hd, hb⟩ := infoOf?_eq_some_iff.1 hinfo
  have hneeds : c.Needs type link.type := by
    refine ⟨d, hd, ?_⟩
    rw [← needs_of_build hb, hlink]
    exact List.mem_append_left _ List.mem_cons_self
  obtain ⟨found, hfound⟩ := hc.exists_infoOf? (hc.isSome_of_needs hneeds)
  exact Registry.contains_iff.2
    ⟨found, (h link.type found).2 ⟨hfound, root, hroot, hreach.tail hneeds⟩⟩

theorem contains_of_base_chain (hc : c.WellFormed) (h : c.HoldsReached roots r)
    {type base : TypeId} (htype : r.contains type = true)
    (hchain : Relation.ReflTransGen r.HasBase type base) : r.contains base = true := by
  induction hchain with
  | refl => exact htype
  | tail _ hbase _ => exact h.contains_base hc hbase

end HoldsReached

namespace Grown

variable {submitted : List TypeId} {calls : List RegistryCall}

theorem empty (c : Catalog) (submitted : List TypeId) : c.Grown submitted [] .empty := by
  refine ⟨?_, by simp [Registry.empty]⟩
  intro type info
  simp [Registry.empty, Registry.find?, askedBy, ReachedFrom]

/-- One call adds what it asks for. -/
theorem perform (hc : c.WellFormed) (h : c.Grown submitted calls r) (call : RegistryCall) :
    (c.perform submitted r call).fault = none ∧
      c.Grown submitted (calls ++ [call]) (c.perform submitted r call).registry := by
  have hasked : askedBy submitted (calls ++ [call]) =
      askedBy submitted calls ++ call.asks submitted := by
    simp [askedBy]
  cases call with
  | register type =>
    refine ⟨fault_registerAll hc [type] r, ?_, ?_⟩
    · rw [hasked]
      exact h.holds.registerAll hc [type]
    · rw [Catalog.perform, register, autoRegistered_registerAll, h.autoRegistered_iff]
      simp
  | autoRegister =>
    rw [Catalog.perform, autoRegister]
    split
    · rename_i hdone
      refine ⟨rfl, ?_, by simp [hdone]⟩
      -- The submitted types were asked for by an earlier call, so nothing more can be reached.
      have hearlier : RegistryCall.autoRegister ∈ calls := h.autoRegistered_iff.1 hdone
      intro type info
      rw [hasked, reachedFrom_append_iff, h.holds type info]
      refine and_congr_right fun _ => (or_iff_left_of_imp ?_).symm
      rintro ⟨root, hroot, hreach⟩
      exact ⟨root, List.mem_flatMap.2 ⟨.autoRegister, hearlier, hroot⟩, hreach⟩
    · have hmarked : c.HoldsReached (askedBy submitted calls) { r with autoRegistered := true } :=
        h.holds
      refine ⟨fault_registerAll hc submitted _, ?_, ?_⟩
      · rw [hasked]
        exact hmarked.registerAll hc submitted
      · rw [autoRegistered_registerAll]
        simp

/-- Every list of calls adds what its calls ask for. -/
theorem performAll (hc : c.WellFormed) (h : c.Grown submitted calls r)
    (later : List RegistryCall) :
    (c.performAll submitted r later).fault = none ∧
      c.Grown submitted (calls ++ later) (c.performAll submitted r later).registry := by
  induction later generalizing calls r with
  | nil => exact ⟨rfl, by simpa [Catalog.performAll] using h⟩
  | cons call later ih =>
    obtain ⟨hfault, hcall⟩ := h.perform hc call
    obtain ⟨hrest, hgrown⟩ := ih hcall
    rw [List.append_assoc, List.singleton_append] at hgrown
    simp only [Catalog.performAll, hfault, Option.isSome_none, Bool.false_eq_true, if_false]
    exact ⟨hrest, hgrown⟩

/-- A call that was made before changes nothing. -/
theorem perform_of_mem (hc : c.WellFormed) (h : c.Grown submitted calls r) {call : RegistryCall}
    (hcall : call ∈ calls) : c.perform submitted r call = ⟨r, none⟩ := by
  cases call with
  | register type =>
    have hdone : c.registerAll [] r = ⟨r, none⟩ := by rw [Catalog.registerAll]
    cases hd : c.describe? type with
    | none => rw [Catalog.perform, register, registerAll_of_describe?_eq_none hd, hdone]
    | some d =>
      obtain ⟨info, hinfo⟩ := hc.exists_infoOf? (Option.isSome_iff_exists.2 ⟨d, hd⟩)
      have hasked : type ∈ askedBy submitted calls :=
        List.mem_flatMap.2 ⟨.register type, hcall, List.mem_cons_self⟩
      have hfind := (h.holds type info).2 ⟨hinfo, type, hasked, .refl⟩
      rw [Catalog.perform, register,
        registerAll_of_contains (Registry.contains_iff.2 ⟨info, hfind⟩), hdone]
  | autoRegister =>
    rw [Catalog.perform, autoRegister, if_pos (h.autoRegistered_iff.2 hcall)]

end Grown

/-- Calls that end without fault can be followed by one more. -/
theorem performAll_append (submitted : List TypeId) (r : Registry) (calls : List RegistryCall)
    (call : RegistryCall) (h : (c.performAll submitted r calls).fault = none) :
    c.performAll submitted r (calls ++ [call]) =
      c.perform submitted (c.performAll submitted r calls).registry call := by
  induction calls generalizing r with
  | nil =>
    simp only [List.nil_append, performAll]
    split
    · rfl
    · rename_i hfault
      cases hout : c.perform submitted r call with
      | mk registry fault =>
        rw [hout] at hfault
        cases fault with
        | none => rfl
        | some fault => simp at hfault
  | cons first calls ih =>
    simp only [List.cons_append, performAll] at h ⊢
    split at h
    · rename_i hfault
      rw [h] at hfault
      cases hfault
    · rename_i hfault
      rw [if_neg hfault, if_neg hfault]
      exact ih _ h

/-- Registration computes the closure under needs. Registering a type comes to an end, keeps what is
there, and adds exactly the types to which a path of absent types leads. From the registry without
descriptions, what a list of calls leaves behind depends on the set of types that it asks for alone,
a call that is repeated changes nothing, and all bases of registered types are registered. -/
theorem registration_closure (c : Catalog) (hc : c.WellFormed) :
    (∀ r type, (c.describe? type).isSome → c.Closes type r (c.register type r)) ∧
      (∀ submitted calls, (c.performAll submitted .empty calls).fault = none) ∧
      (∀ submitted submitted' calls calls',
        (∀ type, type ∈ askedBy submitted calls ↔ type ∈ askedBy submitted' calls') →
        ∀ type, (c.performAll submitted .empty calls).registry.find? type =
          (c.performAll submitted' .empty calls').registry.find? type) ∧
      (∀ submitted calls call, call ∈ calls →
        c.performAll submitted .empty (calls ++ [call]) = c.performAll submitted .empty calls) ∧
      ∀ submitted calls type base,
        let r := (c.performAll submitted .empty calls).registry
        r.contains type → Relation.ReflTransGen r.HasBase type base → r.contains base := by
  have hgrown : ∀ submitted calls, (c.performAll submitted .empty calls).fault = none ∧
      c.Grown submitted calls (c.performAll submitted .empty calls).registry := by
    intro submitted calls
    simpa using (Grown.empty c submitted).performAll hc calls
  refine ⟨fun r type htype => closes_register hc htype r, fun submitted calls =>
    (hgrown submitted calls).1, ?_, ?_, ?_⟩
  · intro submitted submitted' calls calls' hasked type
    refine Option.ext fun info => ?_
    rw [(hgrown submitted calls).2.holds, (hgrown submitted' calls').2.holds]
    refine and_congr_right fun _ => exists_congr fun root => and_congr_left fun _ => ?_
    exact hasked root
  · intro submitted calls call hcall
    obtain ⟨hfault, h⟩ := hgrown submitted calls
    rw [performAll_append submitted .empty calls call hfault, h.perform_of_mem hc hcall]
    cases hout : c.performAll submitted .empty calls with
    | mk registry fault =>
      rw [hout] at hfault
      rw [show fault = none from hfault]
  · intro submitted calls type base r htype hchain
    exact (hgrown submitted calls).2.holds.contains_of_base_chain hc htype hchain

/-! ## A circle of needs -/

namespace RingCatalog

def first : TypeId := .named "First"

def second : TypeId := .named "Second"

def third : TypeId := .named "Third"

/-- Three types in a circle: the first one derives from the second, which depends on the third,
which depends on the first. -/
def ring : Catalog where
  descriptions := [
    ⟨{ TypeDraft.empty first .ordinary with base := some (.embedded second) }, []⟩,
    ⟨.empty second .ordinary, [third]⟩,
    ⟨.empty third .ordinary, [first]⟩]

theorem wellFormed_ring : ring.WellFormed where
  builds := by decide
  described := by decide

theorem freshPath_ring : ring.FreshPath .empty first third :=
  .step rfl ⟨_, rfl, .head _⟩ (.step rfl ⟨_, rfl, .head _⟩ (.here rfl))

end RingCatalog

open RingCatalog

/-- From one type of the circle the whole circle is registered, and two orders of asking for it
agree. -/
theorem registration_of_ring :
    ring.WellFormed ∧ (ring.describe? first).isSome ∧ ring.FreshPath .empty first third ∧
      (∃ info, ring.infoOf? third = some info ∧
        (ring.register first .empty).registry.find? third = some info) ∧
      ∀ type,
        (ring.performAll [second, third] .empty
          [.autoRegister, .register first]).registry.find? type =
        (ring.performAll [third, second] .empty
          [.register first, .autoRegister]).registry.find? type := by
  obtain ⟨hcloses, -, hagree, -⟩ := registration_closure ring wellFormed_ring
  refine ⟨wellFormed_ring, rfl, freshPath_ring, ?_, ?_⟩
  · exact (hcloses .empty first rfl).added third freshPath_ring
  · refine hagree _ _ _ _ fun type => ?_
    simp only [askedBy, RegistryCall.asks, List.flatMap_cons, List.flatMap_nil, List.mem_append,
      List.mem_cons, List.not_mem_nil]
    grind

end Catalog

end Reflection
