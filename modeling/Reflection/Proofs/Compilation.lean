import Reflection.Cache.AccessorCache

/-!
# Compiling by key

Compiling a descriptor looks up what its key denotes, so success and the metadata that is bound
depend on the key alone (`AccessorRequest.compile_of_key_eq`). The texts of failures depend on the
whole descriptor.

An `AccessorRequest` is one of the four ways to ask for an accessor, and `AccessorKey` is what it
is remembered by.
-/

set_option autoImplicit false

namespace Reflection

namespace MemberDescriptor

/-- Whether type arguments are missing can be read off the key. -/
theorem isOpenGeneric_of_key_eq {a b : MemberDescriptor} (h : a.key = b.key) :
    a.isOpenGeneric = b.isOpenGeneric := by
  have hargs : a.typeArgs.length = b.typeArgs.length := by
    simpa [key] using congrArg (fun k => k.typeArgs.length) h
  have hparams : a.typeParams.length = b.typeParams.length := congrArg MemberKey.genericArity h
  rw [isOpenGeneric, isOpenGeneric, hargs, hparams]

/-- Descriptors of one key have parameters of the same types and modes. -/
theorem params_of_key_eq {a b : MemberDescriptor} (h : a.key = b.key) :
    a.params.map ParamInfo.key = b.params.map ParamInfo.key :=
  congrArg MemberKey.params h

theorem isStatic_of_key_eq {a b : MemberDescriptor} (h : a.key = b.key) :
    a.isStatic = b.isStatic :=
  congrArg MemberKey.isStatic h

theorem declaring_of_key_eq {a b : MemberDescriptor} (h : a.key = b.key) :
    a.declaring = b.declaring :=
  congrArg MemberKey.declaring h

end MemberDescriptor

theorem Getter.compile_eq_ok_iff {r : Registry} {d : MemberDescriptor} {g : Getter} :
    Getter.compile r d = .ok g ↔
      ∃ source, r.resolve? d.key = some (.data source) ∧ g = ⟨d, .ofDescriptor r d, source⟩ := by
  rw [Getter.compile]
  split
  · rename_i source hsource
    simp [hsource, eq_comm]
  · rename_i hother
    constructor
    · intro h
      cases h
    · rintro ⟨source, hsource, -⟩
      exact absurd hsource (hother source)

theorem Setter.compile_eq_ok_iff {r : Registry} {d : MemberDescriptor} {s : Setter} :
    Setter.compile r d = .ok s ↔
      ∃ source, ∃ h : source.isWritable = true,
        r.resolve? d.key = some (.data source) ∧ s = ⟨d, .ofDescriptor r d, source, h⟩ := by
  rw [Setter.compile]
  split
  · rename_i source hsource
    constructor
    · intro h
      split at h
      · rename_i hw
        exact ⟨source, hw, hsource, (Except.ok.inj h).symm⟩
      · cases h
    · rintro ⟨found, hw, hfound, rfl⟩
      obtain rfl : source = found := by simpa [hsource] using hfound
      exact dif_pos hw
  · rename_i hother
    constructor
    · intro h
      cases h
    · rintro ⟨source, -, hsource, -⟩
      exact absurd hsource (hother source)

theorem Invoker.compile_eq_ok_iff {r : Registry} {d : MemberDescriptor} {i : Invoker} :
    Invoker.compile r d = .ok i ↔
      d.isOpenGeneric = false ∧
        ∃ m, r.resolve? d.key = some (.method m) ∧ i = ⟨d, .ofDescriptor r d, m⟩ := by
  rw [Invoker.compile]
  split
  · rename_i hopen
    simp [hopen]
  · rename_i hclosed
    split
    · rename_i m hm
      simp [hclosed, hm, eq_comm]
    · rename_i hother
      constructor
      · intro h
        cases h
      · rintro ⟨-, m, hm, -⟩
        exact absurd hm (hother m)

/-- What an accessor is remembered by: how the member is accessed, and the key of the member. A
constructor is remembered by its type. -/
inductive AccessorKey where
  | getter (key : MemberKey)
  | setter (key : MemberKey)
  | invoker (key : MemberKey)
  | constructor (type : TypeId)
  deriving DecidableEq

namespace AccessorKey

/-- How the member is accessed. -/
def kind : AccessorKey → AccessKind
  | getter _ => .get
  | setter _ => .set
  | invoker _ => .invoke
  | constructor _ => .construct

end AccessorKey

namespace Accessor

/-- The metadata that the accessor works with. -/
def member : Accessor → Member
  | getter g => .data g.source
  | setter s => .data s.source
  | invoker i => .method i.method
  | constructor c => .constructor c.info

/-- What the accessor is bound to: the member that it is for, and the metadata of that member. -/
def bound (x : Accessor) : MemberKey × Member :=
  (x.descriptor.key, x.member)

end Accessor

/-- A request for one accessor. -/
inductive AccessorRequest where
  | getter (d : MemberDescriptor)
  | setter (d : MemberDescriptor)
  | invoker (d : MemberDescriptor)
  | constructor (type : TypeId)

namespace AccessorRequest

/-- What the accessor is remembered by. -/
def key : AccessorRequest → AccessorKey
  | getter d => .getter d.key
  | setter d => .setter d.key
  | invoker d => .invoker d.key
  | constructor type => .constructor type

/-- The accessor, compiled for a registry. -/
def compile (r : Registry) : AccessorRequest → Except AccessError Accessor
  | getter d => (Getter.compile r d).map .getter
  | setter d => (Setter.compile r d).map .setter
  | invoker d => (Invoker.compile r d).map .invoker
  | constructor type => (Constructor.compile r type).map .constructor

theorem getter_compile_eq_ok_iff {r : Registry} {d : MemberDescriptor} {x : Accessor} :
    (getter d).compile r = .ok x ↔ ∃ g, Getter.compile r d = .ok g ∧ x = .getter g := by
  rw [compile]
  cases Getter.compile r d <;> simp [Except.map, eq_comm]

theorem setter_compile_eq_ok_iff {r : Registry} {d : MemberDescriptor} {x : Accessor} :
    (setter d).compile r = .ok x ↔ ∃ s, Setter.compile r d = .ok s ∧ x = .setter s := by
  rw [compile]
  cases Setter.compile r d <;> simp [Except.map, eq_comm]

theorem invoker_compile_eq_ok_iff {r : Registry} {d : MemberDescriptor} {x : Accessor} :
    (invoker d).compile r = .ok x ↔ ∃ i, Invoker.compile r d = .ok i ∧ x = .invoker i := by
  rw [compile]
  cases Invoker.compile r d <;> simp [Except.map, eq_comm]

/-- Requests of one key succeed together, and bind the same metadata. -/
theorem compile_of_key_eq {r : Registry} {a b : AccessorRequest} (h : a.key = b.key)
    {x : Accessor} (hx : a.compile r = .ok x) :
    ∃ y, b.compile r = .ok y ∧ y.bound = x.bound := by
  cases a with
  | getter d =>
    cases b with
    | getter e =>
      have hkey : d.key = e.key := AccessorKey.getter.inj h
      obtain ⟨g, hg, rfl⟩ := getter_compile_eq_ok_iff.1 hx
      obtain ⟨source, hsource, rfl⟩ := Getter.compile_eq_ok_iff.1 hg
      rw [hkey] at hsource
      refine ⟨_, getter_compile_eq_ok_iff.2
        ⟨_, Getter.compile_eq_ok_iff.2 ⟨source, hsource, rfl⟩, rfl⟩, ?_⟩
      exact congrArg (·, Member.data source) hkey.symm
    | _ => cases h
  | setter d =>
    cases b with
    | setter e =>
      have hkey : d.key = e.key := AccessorKey.setter.inj h
      obtain ⟨s, hs, rfl⟩ := setter_compile_eq_ok_iff.1 hx
      obtain ⟨source, hw, hsource, rfl⟩ := Setter.compile_eq_ok_iff.1 hs
      rw [hkey] at hsource
      refine ⟨_, setter_compile_eq_ok_iff.2
        ⟨_, Setter.compile_eq_ok_iff.2 ⟨source, hw, hsource, rfl⟩, rfl⟩, ?_⟩
      exact congrArg (·, Member.data source) hkey.symm
    | _ => cases h
  | invoker d =>
    cases b with
    | invoker e =>
      have hkey : d.key = e.key := AccessorKey.invoker.inj h
      obtain ⟨i, hi, rfl⟩ := invoker_compile_eq_ok_iff.1 hx
      obtain ⟨hclosed, m, hm, rfl⟩ := Invoker.compile_eq_ok_iff.1 hi
      rw [hkey] at hm
      rw [MemberDescriptor.isOpenGeneric_of_key_eq hkey] at hclosed
      refine ⟨_, invoker_compile_eq_ok_iff.2
        ⟨_, Invoker.compile_eq_ok_iff.2 ⟨hclosed, m, hm, rfl⟩, rfl⟩, ?_⟩
      exact congrArg (·, Member.method m) hkey.symm
    | _ => cases h
  | constructor type =>
    cases b with
    | constructor other =>
      obtain rfl : type = other := AccessorKey.constructor.inj h
      exact ⟨x, hx, rfl⟩
    | _ => cases h

end AccessorRequest

end Reflection
