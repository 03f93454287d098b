import Reflection.Proofs.CacheHistory
import Reflection.Proofs.Descriptors
import Reflection.Proofs.HierarchyOrder
import Reflection.Script.Members

/-!
# Data members by name

Reading and writing a data member by name needs no cache: the registry finds the member that the
name means and compiles its accessor, and the accessor is used on the target (`Registry.read`,
`Registry.write`). A handle goes another way. It takes the member from a stored table, and the
accessor from the cache, which may have compiled it for another request of the same key, on behalf
of another target.

Main statement: `Handle.access_eq_direct`. If the base links have no cycle, both ways answer and
give the same results, the texts of errors included. A stored table means the same member by a name
as the registry does (`Registry.member_eq`), and what an accessor does can be read off its key
(`Getter.compile_of_key_eq`, `Setter.compile_of_key_eq`).

The way of a handle walks the whole chain of bases before it looks the name up, and the other one
only as far as the member. On a cycle the one never answers where the other one does
(`Handle.access_on_cycle`).
-/

set_option autoImplicit false

namespace Reflection

/-! ## Without a cache -/

namespace Registry

/-- Reads the data member that a name means for a target. -/
def read (r : Registry) (target : Target) (name : String) (store : Store) :
    Except AccessError Value := do
  let d ← r.member target.type name
  let getter ← Getter.compile r d
  getter.get (some target) store

/-- Writes the data member that a name means for a target. -/
def write (r : Registry) (target : Target) (name : String) (v : Value) (store : Store) :
    Except AccessError Store := do
  let d ← r.member target.type name
  let setter ← Setter.compile r d
  setter.set (some target) v store

end Registry

/-! ## Accessors of one key -/

namespace MemberDescriptor

theorem isOpenGeneric_ofData (owner : TypeInfo) (x : DataMember) :
    (ofData owner x).isOpenGeneric = false := by
  cases x <;> rfl

theorem isOpenGeneric_of_dataMember? {r : Registry} {type : TypeId} {name : String}
    {d : MemberDescriptor} (h : (MemberTable.build r type).dataMember? name = some d) :
    d.isOpenGeneric = false := by
  obtain ⟨owner, -, x, -, rfl⟩ := MemberTable.exists_of_dataMember?_build h
  exact isOpenGeneric_ofData owner x

end MemberDescriptor

section SameKey

variable {r : Registry} {first d : MemberDescriptor}

/-- Members of one key bind their targets in the same way, and show themselves alike when they
cannot. -/
theorem TargetBinding.ofDescriptor_of_key_eq (hkey : first.key = d.key)
    (hclosed : d.isOpenGeneric = false) : ofDescriptor r first = ofDescriptor r d := by
  rw [ofDescriptor, ofDescriptor, MemberDescriptor.isStatic_of_key_eq hkey,
    ← MemberDescriptor.display_of_key_eq hkey.symm hclosed,
    MemberDescriptor.declaring_of_key_eq hkey]

theorem MemberDescriptor.unrelated_of_key_eq (hkey : first.key = d.key)
    (hclosed : d.isOpenGeneric = false) : first.unrelated = d.unrelated := by
  rw [unrelated, unrelated, ← display_of_key_eq hkey.symm hclosed, declaringName, declaringName,
    declaring_of_key_eq hkey]

/-- If there is a getter for one descriptor of a key, there is one for every other, and both read
alike. -/
theorem Getter.compile_of_key_eq (hkey : first.key = d.key) (hclosed : d.isOpenGeneric = false)
    {older : Getter} (holder : compile r first = .ok older) :
    ∃ fresh, compile r d = .ok fresh ∧
      ∀ target store, older.get target store = fresh.get target store := by
  obtain ⟨source, hsource, rfl⟩ := compile_eq_ok_iff.1 holder
  rw [hkey] at hsource
  refine ⟨_, compile_eq_ok_iff.2 ⟨source, hsource, rfl⟩, ?_⟩
  intro target store
  simp only [get, TargetBinding.ofDescriptor_of_key_eq hkey hclosed,
    MemberDescriptor.declaring_of_key_eq hkey, MemberDescriptor.unrelated_of_key_eq hkey hclosed]

/-- The same for setters. -/
theorem Setter.compile_of_key_eq (hkey : first.key = d.key) (hclosed : d.isOpenGeneric = false)
    {older : Setter} (holder : compile r first = .ok older) :
    ∃ fresh, compile r d = .ok fresh ∧
      ∀ target v store, older.set target v store = fresh.set target v store := by
  obtain ⟨source, hwritable, hsource, rfl⟩ := compile_eq_ok_iff.1 holder
  rw [hkey] at hsource
  refine ⟨_, compile_eq_ok_iff.2 ⟨source, hwritable, hsource, rfl⟩, ?_⟩
  intro target v store
  simp only [set, TargetBinding.ofDescriptor_of_key_eq hkey hclosed,
    MemberDescriptor.declaring_of_key_eq hkey, MemberDescriptor.unrelated_of_key_eq hkey hclosed]

end SameKey

/-! ## With a cache -/

namespace AccessorCache.Sound

variable {c : AccessorCache} {r : Registry} {d : MemberDescriptor}

/-- Reading with the getter that a sound cache gives is reading with a new one. -/
theorem getter_bind_get (h : c.Sound r) (hclosed : d.isOpenGeneric = false)
    (target : Option Target) (store : Store) :
    ((c.getter d).1 >>= fun s => s.item.get target store) =
      (Getter.compile r d >>= fun g => g.get target store) := by
  rcases h.getter_cases d with ⟨e, hfailed, hfresh⟩ | ⟨s, first, hs, hkey, hfirst⟩
  · rw [hfailed, hfresh]
    rfl
  · obtain ⟨fresh, hfresh, hget⟩ := Getter.compile_of_key_eq hkey hclosed hfirst
    rw [hs, hfresh]
    exact hget target store

/-- Writing with the setter that a sound cache gives is writing with a new one. -/
theorem setter_bind_set (h : c.Sound r) (hclosed : d.isOpenGeneric = false)
    (target : Option Target) (v : Value) (store : Store) :
    ((c.setter d).1 >>= fun s => s.item.set target v store) =
      (Setter.compile r d >>= fun s => s.set target v store) := by
  rcases h.setter_cases d with ⟨e, hfailed, hfresh⟩ | ⟨s, first, hs, hkey, hfirst⟩
  · rw [hfailed, hfresh]
    rfl
  · obtain ⟨fresh, hfresh, hset⟩ := Setter.compile_of_key_eq hkey hclosed hfirst
    rw [hs, hfresh]
    exact hset target v store

/-- A handle of a sound cache reads as the registry does. -/
theorem get_fst (hsound : c.Sound r) (h : Handle) (name : String) (store : Store) :
    (h.get c name store).1 = r.read h.target name store := by
  have htable : (h.table c).1 = .build r h.target.type := hsound.memberTable_fst h.target.type
  have hafter : (h.table c).2.Sound r := hsound.memberTable h.target.type
  rw [Handle.get, Registry.read, Registry.member_eq]
  dsimp only
  rw [htable]
  -- Both ways now look the name up in one table, and only the accessor is left to compare.
  cases hd : (MemberTable.build r h.target.type).dataMember? name with
  | none => rfl
  | some d =>
    have hclosed := MemberDescriptor.isOpenGeneric_of_dataMember? hd
    refine Eq.trans ?_ (hafter.getter_bind_get hclosed (some h.target) store)
    dsimp only
    cases (h.table c).2.getter d with
    | mk result c' => cases result <;> rfl

/-- And it writes as the registry does. -/
theorem set_fst (hsound : c.Sound r) (h : Handle) (name : String) (v : Value) (store : Store) :
    (h.set c name v store).1 = r.write h.target name v store := by
  have htable : (h.table c).1 = .build r h.target.type := hsound.memberTable_fst h.target.type
  have hafter : (h.table c).2.Sound r := hsound.memberTable h.target.type
  rw [Handle.set, Registry.write, Registry.member_eq]
  dsimp only
  rw [htable]
  cases hd : (MemberTable.build r h.target.type).dataMember? name with
  | none => rfl
  | some d =>
    have hclosed := MemberDescriptor.isOpenGeneric_of_dataMember? hd
    refine Eq.trans ?_ (hafter.setter_bind_set hclosed (some h.target) v store)
    dsimp only
    cases (h.table c).2.setter d with
    | mk result c' => cases result <;> rfl

end AccessorCache.Sound

/-- Access by name is direct access: both answer, with the same result, and a write leaves the same
state. -/
structure Handle.AccessesDirectly (h : Handle) (r : Registry) (c : AccessorCache) (name : String)
    (store : Store) : Prop where
  /-- The handle has a table to look the name up in. -/
  table : c.HasTable h.target.type
  /-- The registry finds the member, or comes to the end of the chain. -/
  search : r.Stops h.target.type fun owner => (owner.dataMember? name).isSome
  /-- Whichever accessor has to be compiled, its binding can be made. -/
  bindings : ∀ d, TargetBinding.Ends r d
  get : (h.get c name store).1 = r.read h.target name store
  set : ∀ v, (h.set c name v store).1 = r.write h.target name v store

/-- If the base links have no cycle, then after every history of a cache a handle reads a data
member with the result, and writes one with the result and the state, that finding the member in the
registry, compiling its accessor and using it on the target give. -/
theorem Handle.access_eq_direct {r : Registry} (hr : r.Acyclic) (history : List CacheRequest)
    (h : Handle) (name : String) (store : Store) :
    h.AccessesDirectly r ((AccessorCache.ofRegistry r).run history) name store := by
  have hsound := (AccessorCache.sound_ofRegistry r).run history
  have hend := hr.ends h.target.type
  exact ⟨hsound.hasTable hend, hend.stops _, hr.binding_ends, hsound.get_fst h name store,
    fun v => hsound.set_fst h name v store⟩

/-! ## A chain and a cycle -/

namespace Tagged

/-- A type with one text for each instance. -/
def tagged (type base : TypeId) : TypeInfo :=
  { Kinship.derived type base with fields := [.ofCell type false "Tag" .pub .string] }

/-- Employees have the text of persons. -/
def chain : Registry :=
  (Registry.empty.insert (Kinship.derived Kinship.employee Kinship.person)).insert
    (tagged Kinship.person Kinship.being)

theorem acyclic_chain : chain.Acyclic :=
  Registry.acyclic_of_rank Kinship.height (by decide)

/-- A being is described as the base of beings. -/
def cycle : Registry :=
  Registry.empty.insert (tagged Kinship.being Kinship.being)

/-- The walk from there never ends: it comes to the same description again and again. -/
theorem ancestor?_cycle (position : Nat) :
    cycle.ancestor? position Kinship.being = some (tagged Kinship.being Kinship.being) := by
  induction position with
  | zero => rfl
  | succ position ih => exact ih

/-- An instance of its own. -/
def instanceOf (type : TypeId) : Handle := ⟨⟨.numbered 0, type⟩⟩

end Tagged

namespace Handle

open Kinship Tagged

/-- A field of the base is read by name, with the accessor that a base instance has left. -/
theorem access_up_chain :
    chain.Acyclic ∧
      (instanceOf employee).AccessesDirectly chain
        ((AccessorCache.ofRegistry chain).run [.get (instanceOf person) "Tag" .empty]) "Tag"
        .empty :=
  ⟨acyclic_chain, access_eq_direct acyclic_chain _ _ _ _⟩

/-- On a cycle the registry finds the field at once, its getter can be compiled, and the field is
read; but a handle has no table, so that it never answers. -/
theorem access_on_cycle :
    (cycle.Stops being fun owner => (owner.dataMember? "Tag").isSome) ∧
      (∀ d, cycle.member being "Tag" = .ok d → TargetBinding.Ends cycle d) ∧
      cycle.read (instanceOf being).target "Tag" .empty = .ok (.string "") ∧
      ¬(AccessorCache.ofRegistry cycle).HasTable being ∧
      ¬(instanceOf being).AccessesDirectly cycle (.ofRegistry cycle) "Tag" .empty := by
  have htable : ¬(AccessorCache.ofRegistry cycle).HasTable being := by
    rintro (hstored | ⟨position, hend⟩)
    · cases hstored
    · have hnone : cycle.ancestor? position being = none := hend
      rw [ancestor?_cycle] at hnone
      cases hnone
  refine ⟨⟨0, ?_⟩, ?_, rfl, htable, fun hdirect => htable hdirect.table⟩
  · intro info hinfo
    cases hinfo
    rfl
  · intro d hd
    cases hd
    -- No other type is registered, so no way is searched for.
    intro _ info hinfo hother
    obtain rfl := List.mem_singleton.1 hinfo
    exact absurd rfl hother

end Handle

end Reflection
