import Reflection.Proofs.Compilation
import Reflection.Proofs.MemberTables

/-!
# Descriptors and what they denote

A descriptor that a registry gives, by name, by closing a generic method or through a member table,
describes a member of a registered type (`Registry.Gives.exists_owner`). In the other direction, the
key of a descriptor denotes a member of the type that it names: of its kind and name for every key
(`Registry.exists_of_resolve?_data`, `Registry.resolve?_eq_some_method_iff`), and of its scope and
parameters too for the keys that the same registry gives (`Registry.Gives.agrees_of_resolve?`).

A closed generic method is found twice, by its type arguments and by their keys. Both searches find
the same instance (`Registry.resolveMethod?_ofClosedGeneric`), if the generic method has type
parameters at all.
-/

set_option autoImplicit false

namespace Reflection

/-- The first item that passes a test is the first one that passes a finer test, if it does so at
all. -/
theorem find?_of_coarser {α : Type} {coarse fine : α → Bool} {items : List α} {x : α}
    (h : items.find? coarse = some x) (hfine : fine x = true)
    (hcoarser : ∀ y, fine y = true → coarse y = true) : items.find? fine = some x := by
  obtain ⟨-, before, after, hitems, hbefore⟩ := List.find?_eq_some_iff_append.1 h
  refine List.find?_eq_some_iff_append.2 ⟨hfine, before, after, hitems, fun y hy => ?_⟩
  have hfails := hbefore y hy
  rw [Bool.not_eq_true', Bool.eq_false_iff] at hfails ⊢
  exact fun hpasses => hfails (hcoarser y hpasses)

/-- Declared types are told apart by their keys, in lists too. -/
theorem TypeRef.map_key_inj {types others : List TypeRef} :
    types.map key = others.map key ↔ types = others :=
  List.map_inj_right fun _ _ => key_injective

namespace MemberDescriptor

/-- Parameters of the same types and modes are shown alike. -/
theorem map_display_of_key_eq {params others : List ParamInfo}
    (h : params.map ParamInfo.key = others.map ParamInfo.key) :
    params.map ParamInfo.display = others.map ParamInfo.display := by
  have hdisplay : ∀ ps : List ParamInfo, ps.map ParamInfo.display =
      (ps.map ParamInfo.key).map fun k => k.mode.marker ++ k.type.id.name.display := by
    intro ps
    rw [List.map_map]
    rfl
  rw [hdisplay params, hdisplay others, h]

/-- Members with type arguments, or without type parameters, are shown alike if they have one
key. -/
theorem display_of_key_eq {a b : MemberDescriptor} (h : a.key = b.key)
    (hclosed : a.isOpenGeneric = false) : a.display = b.display := by
  have hname : a.name = b.name := congrArg MemberKey.name h
  have hkind : a.kind = b.kind := congrArg MemberKey.kind h
  have harity : a.typeParams.length = b.typeParams.length := congrArg MemberKey.genericArity h
  have hargs : a.typeArgs = b.typeArgs := TypeRef.map_key_inj.1 (congrArg MemberKey.typeArgs h)
  have hgeneric : a.genericPart = b.genericPart := by
    rw [genericPart, genericPart, ← hargs]
    cases hparams : a.typeParams with
    | nil =>
      rw [hparams] at harity
      rw [List.eq_nil_of_length_eq_zero harity.symm]
    | cons p ps =>
      -- There are type arguments, so the names of the type parameters are not shown.
      have hsome : a.typeArgs ≠ [] := by
        rintro hnil
        simp [isOpenGeneric, hnil, hparams] at hclosed
      have hother : b.typeParams ≠ [] := by
        intro hnil
        rw [hparams, hnil] at harity
        cases harity
      simp [hsome, hother]
  have hparams : a.parameterPart = b.parameterPart := by
    rw [parameterPart, parameterPart, hkind, isOpenGeneric_of_key_eq h,
      map_display_of_key_eq (params_of_key_eq h)]
  rw [display, display, declaringName, declaringName, declaring_of_key_eq h, hname, hgeneric,
    hparams]

end MemberDescriptor

namespace MemberKey

theorem matchesMethod_iff {key : MemberKey} {m : MethodInfo} :
    key.matchesMethod m = true ↔
      m.name = key.name ∧ m.isStatic = key.isStatic ∧ m.paramKeys = key.params := by
  simp [matchesMethod, and_assoc]

end MemberKey

namespace TypeInfo

variable {owner : TypeInfo}

/-- The metadata is of a member of the type. -/
def Declares (owner : TypeInfo) : Member → Prop
  | .data (.field f) => f ∈ owner.fields
  | .data (.property p) => p ∈ owner.properties
  | .method m => m ∈ owner.methods ∨ ∃ g ∈ owner.generics, ∃ i ∈ g.instances, i.method = m
  | .constructor c => owner.constructor = some c

/-- The descriptor is the one of a member of the type. A field or property is the first one of its
name. -/
inductive Describes (owner : TypeInfo) : MemberDescriptor → Prop
  | field {f : FieldInfo} : owner.field? f.name = some f → Describes owner (.ofField owner f)
  | property {p : PropertyInfo} : owner.property? p.name = some p →
      Describes owner (.ofProperty owner p)
  | constructor {c : ConstructorInfo} : owner.constructor = some c →
      Describes owner (.ofConstructor owner c)
  | method {m : MethodInfo} : m ∈ owner.methods → Describes owner (.ofMethod owner m)
  | openGeneric {g : GenericMethodInfo} : g ∈ owner.generics →
      Describes owner (.ofOpenGeneric owner g)
  | closedGeneric {name : String} {g : GenericMethodInfo} {typeArgs : List TypeRef}
      {m : MethodInfo} : owner.generic? name = some g → g.instanceFor? typeArgs = some m →
      Describes owner (.ofClosedGeneric owner g typeArgs m)

theorem Describes.declaring {d : MemberDescriptor} (h : owner.Describes d) :
    d.declaring = owner.id := by
  cases h <;> rfl

/-- Methods of a type are its own. -/
theorem Declares.declaring {m : MethodInfo} (h : owner.Declares (.method m)) :
    m.declaring = owner.id := by
  rcases h with hm | ⟨g, hg, i, hi, rfl⟩
  · exact owner.methods_declaring m hm
  · exact (owner.generics_fit g hg i hi).2.2

theorem name_of_field? {name : String} {f : FieldInfo} (h : owner.field? name = some f) :
    f.name = name := by
  simpa using List.find?_some h

theorem name_of_property? {name : String} {p : PropertyInfo} (h : owner.property? name = some p) :
    p.name = name := by
  simpa using List.find?_some h

/-- The data member that a name means is the first field of the name, or else the first property. -/
theorem dataMember?_eq_some_iff {name : String} {x : DataMember} :
    owner.dataMember? name = some x ↔
      (∃ f, owner.field? name = some f ∧ .field f = x) ∨
        owner.field? name = none ∧ ∃ p, owner.property? name = some p ∧ .property p = x := by
  rw [dataMember?]
  cases owner.field? name <;> simp

/-- It is described as a field or as a property. -/
theorem describes_of_dataMember? {name : String} {x : DataMember}
    (h : owner.dataMember? name = some x) : owner.Describes (.ofData owner x) := by
  rcases dataMember?_eq_some_iff.1 h with ⟨f, hf, rfl⟩ | ⟨-, p, hp, rfl⟩
  · exact .field (by rw [name_of_field? hf, hf])
  · exact .property (by rw [name_of_property? hp, hp])

end TypeInfo

namespace GenericMethodInfo

variable {g : GenericMethodInfo} {typeArgs : List TypeRef} {m : MethodInfo}

theorem instanceFor?_eq_some_iff :
    g.instanceFor? typeArgs = some m ↔
      ∃ i, g.instances.find? (fun i => i.typeArgs == typeArgs) = some i ∧ i.method = m := by
  rw [instanceFor?, Option.map_eq_some_iff]

/-- The instance for some type arguments is one of the instances, for exactly these. -/
theorem exists_of_instanceFor? (h : g.instanceFor? typeArgs = some m) :
    ∃ i ∈ g.instances, i.typeArgs = typeArgs ∧ i.method = m := by
  obtain ⟨i, hi, hm⟩ := instanceFor?_eq_some_iff.1 h
  exact ⟨i, List.mem_of_find?_eq_some hi, by simpa using List.find?_some hi, hm⟩

end GenericMethodInfo

namespace TypeInfo

variable {owner : TypeInfo} {name : String} {g : GenericMethodInfo}

theorem name_of_generic? (h : owner.generic? name = some g) : g.name = name := by
  simpa using List.find?_some h

/-- The instance for some type arguments fits the generic method. -/
theorem fits_of_instanceFor? (hg : owner.generic? name = some g) {typeArgs : List TypeRef}
    {m : MethodInfo} (hm : g.instanceFor? typeArgs = some m) :
    typeArgs.length = g.arity ∧ m.name = g.name ∧ m.declaring = owner.id := by
  obtain ⟨i, hi, rfl, rfl⟩ := GenericMethodInfo.exists_of_instanceFor? hm
  exact owner.generics_fit g (List.mem_of_find?_eq_some hg) i hi

end TypeInfo

/-! ## Member tables -/

namespace MemberTable

/-- All members of the table. -/
def all (table : MemberTable) : List MemberDescriptor :=
  table.dataMembers ++ table.methods ++ table.generics

theorem mem_all_iff {table : MemberTable} {d : MemberDescriptor} :
    d ∈ table.all ↔ d ∈ table.dataMembers ∨ d ∈ table.methods ∨ d ∈ table.generics := by
  rw [all, List.mem_append, List.mem_append, or_assoc]

/-- Every member of a table is described by the type or by an ancestor of it. -/
theorem exists_of_mem_all_build {r : Registry} {type : TypeId} {d : MemberDescriptor}
    (h : d ∈ (build r type).all) : ∃ owner ∈ r.ancestors type, owner.Describes d := by
  rcases mem_all_iff.1 h with hdata | hmethod | hgeneric
  · obtain ⟨owner, howner, x, hx, rfl⟩ :=
      exists_of_dataMember?_build (dataMember?_of_mem_build hdata)
    exact ⟨owner, howner, TypeInfo.describes_of_dataMember? hx⟩
  · obtain ⟨owner, howner, m, hm, rfl⟩ := exists_of_mem_methods_build hmethod
    exact ⟨owner, howner, .method hm⟩
  · obtain ⟨owner, howner, g, hg, rfl⟩ := exists_of_mem_generics_build hgeneric
    exact ⟨owner, howner, .openGeneric hg⟩

end MemberTable

namespace Registry

variable {r : Registry}

/-! ## Where descriptors come from -/

/-- The ways to get a descriptor from a registry. -/
inductive Gives (r : Registry) : MemberDescriptor → Prop
  | field {type : TypeId} {name : String} {d : MemberDescriptor} :
      r.field type name = .ok d → Gives r d
  | property {type : TypeId} {name : String} {d : MemberDescriptor} :
      r.property type name = .ok d → Gives r d
  | member {type : TypeId} {name : String} {d : MemberDescriptor} :
      r.member type name = .ok d → Gives r d
  | method {type : TypeId} {name : String} {types : List TypeRef} {d : MemberDescriptor} :
      r.method type name types = .ok d → Gives r d
  | methods {type : TypeId} {name : String} {d : MemberDescriptor} :
      d ∈ r.methods type name → Gives r d
  | generic {type : TypeId} {name : String} {d : MemberDescriptor} :
      r.generic type name = .ok d → Gives r d
  | closed {openMethod d : MemberDescriptor} {typeArgs : List TypeRef} :
      r.closeGeneric openMethod typeArgs = .ok d → Gives r d
  | constructor {type : TypeId} {d : MemberDescriptor} :
      r.constructor type = .ok d → Gives r d
  | table {type : TypeId} {d : MemberDescriptor} :
      d ∈ (MemberTable.build r type).all → Gives r d

theorem exists_of_nearest {type : TypeId} {member : String}
    {find : TypeInfo → Option MemberDescriptor} {d : MemberDescriptor}
    (h : r.nearest type member find = .ok d) : ∃ owner ∈ r.ancestors type, find owner = some d := by
  rw [nearest] at h
  split at h
  · rename_i found hfound
    cases h
    exact List.exists_of_findSome?_eq_some hfound
  · cases h

theorem mem_foldl_addVisible {d : MemberDescriptor} {visible news : List MemberDescriptor}
    (h : d ∈ news.foldl addVisible visible) : d ∈ visible ∨ d ∈ news :=
  MemberTable.mem_or_mem_of_mem_foldl
    (fun _ _ _ hadd => MemberTable.mem_or_eq_of_mem_ite hadd) h

theorem closedGeneric?_eq_some_iff {openMethod d : MemberDescriptor} {typeArgs : List TypeRef} :
    r.closedGeneric? openMethod typeArgs = some d ↔
      ∃ owner g m, r.find? openMethod.declaring = some owner ∧
        owner.generic? openMethod.name = some g ∧ g.arity = typeArgs.length ∧
        g.instanceFor? typeArgs = some m ∧ d = .ofClosedGeneric owner g typeArgs m := by
  simp only [closedGeneric?, Option.bind_eq_bind, Option.bind_eq_some_iff]
  constructor
  · rintro ⟨owner, howner, g, hg, h⟩
    split at h
    · rename_i harity
      obtain ⟨m, hm, hd⟩ := Option.bind_eq_some_iff.1 h
      exact ⟨owner, g, m, howner, hg, harity, hm, (Option.some.inj hd).symm⟩
    · cases h
  · rintro ⟨owner, g, m, howner, hg, harity, hm, rfl⟩
    exact ⟨owner, howner, g, hg, by simp [harity, hm]⟩

theorem closeGeneric_eq_ok_iff {openMethod d : MemberDescriptor} {typeArgs : List TypeRef} :
    r.closeGeneric openMethod typeArgs = .ok d ↔
      r.closedGeneric? openMethod typeArgs = some d := by
  rw [closeGeneric]
  cases r.closedGeneric? openMethod typeArgs <;> simp

/-- A descriptor that a registry gives describes a member of a registered type. -/
theorem Gives.exists_owner {d : MemberDescriptor} (h : r.Gives d) :
    ∃ owner, r.find? owner.id = some owner ∧ owner.Describes d := by
  have hnearest : ∀ {type : TypeId} {member : String}
      {find : TypeInfo → Option MemberDescriptor}, r.nearest type member find = .ok d →
      (∀ owner, find owner = some d → owner.Describes d) →
      ∃ owner, r.find? owner.id = some owner ∧ owner.Describes d := by
    intro type member find hfound hdescribes
    obtain ⟨owner, howner, hd⟩ := exists_of_nearest hfound
    exact ⟨owner, find?_id_of_mem_chain howner, hdescribes owner hd⟩
  cases h with
  | field h =>
    refine hnearest h fun owner hd => ?_
    obtain ⟨f, hf, rfl⟩ := Option.map_eq_some_iff.1 hd
    exact .field (by rw [TypeInfo.name_of_field? hf, hf])
  | property h =>
    refine hnearest h fun owner hd => ?_
    obtain ⟨p, hp, rfl⟩ := Option.map_eq_some_iff.1 hd
    exact .property (by rw [TypeInfo.name_of_property? hp, hp])
  | member h =>
    refine hnearest h fun owner hd => ?_
    obtain ⟨x, hx, rfl⟩ := Option.map_eq_some_iff.1 hd
    exact TypeInfo.describes_of_dataMember? hx
  | method h =>
    refine hnearest h fun owner hd => ?_
    obtain ⟨m, hm, rfl⟩ := Option.map_eq_some_iff.1 hd
    exact .method ((List.mem_filter.1 (List.mem_of_find?_eq_some hm)).1)
  | generic h =>
    refine hnearest h fun owner hd => ?_
    obtain ⟨g, hg, rfl⟩ := Option.map_eq_some_iff.1 hd
    exact .openGeneric (List.mem_of_find?_eq_some hg)
  | methods h =>
    rcases mem_foldl_addVisible h with hnone | hsome
    · cases hnone
    · obtain ⟨owner, howner, hd⟩ := List.mem_flatMap.1 hsome
      obtain ⟨m, hm, rfl⟩ := List.mem_map.1 hd
      exact ⟨owner, find?_id_of_mem_chain howner, .method (List.mem_filter.1 hm).1⟩
  | closed h =>
    obtain ⟨owner, g, m, howner, hg, -, hm, rfl⟩ :=
      closedGeneric?_eq_some_iff.1 (closeGeneric_eq_ok_iff.1 h)
    exact ⟨owner, by rw [id_of_find? howner, howner], .closedGeneric hg hm⟩
  | constructor h =>
    rw [Registry.constructor] at h
    split at h
    · cases h
    · rename_i owner howner
      split at h
      · rename_i c hc
        split at h
        · cases h
          exact ⟨owner, by rw [id_of_find? howner, howner], .constructor hc⟩
        · cases h
      · cases h
  | table h =>
    obtain ⟨owner, howner, hdescribes⟩ := MemberTable.exists_of_mem_all_build h
    exact ⟨owner, find?_id_of_mem_chain howner, hdescribes⟩

/-! ## What keys denote -/

/-- The key of a field that a name means denotes that field. -/
theorem resolve?_ofField {owner : TypeInfo} (howner : r.find? owner.id = some owner)
    {f : FieldInfo} (hf : owner.field? f.name = some f) :
    r.resolve? (MemberDescriptor.ofField owner f).key = some (.data (.field f)) := by
  have hfound : (owner.fields.find? fun x => x.name == f.name && x.isStatic == f.isStatic) =
      some f :=
    find?_of_coarser hf (by simp) fun _ hx => (Bool.and_eq_true_iff.1 hx).1
  have hdeclaring : r.find? (MemberDescriptor.ofField owner f).key.declaring = some owner := howner
  rw [resolve?, hdeclaring]
  change (owner.fields.find? fun x => x.name == f.name && x.isStatic == f.isStatic).map _ = _
  rw [hfound]
  rfl

/-- The key of a property that a name means denotes that property. -/
theorem resolve?_ofProperty {owner : TypeInfo} (howner : r.find? owner.id = some owner)
    {p : PropertyInfo} (hp : owner.property? p.name = some p) :
    r.resolve? (MemberDescriptor.ofProperty owner p).key = some (.data (.property p)) := by
  have hfound : (owner.properties.find? fun x => x.name == p.name && x.isStatic == p.isStatic) =
      some p :=
    find?_of_coarser hp (by simp) fun _ hx => (Bool.and_eq_true_iff.1 hx).1
  have hdeclaring : r.find? (MemberDescriptor.ofProperty owner p).key.declaring = some owner :=
    howner
  rw [resolve?, hdeclaring]
  change (owner.properties.find? fun x => x.name == p.name && x.isStatic == p.isStatic).map _ = _
  rw [hfound]
  rfl

/-- The data member that a key denotes has the name, the kind and the scope of the key. -/
theorem exists_of_resolve?_data {key : MemberKey} {source : DataMember}
    (h : r.resolve? key = some (.data source)) :
    ∃ owner, r.find? key.declaring = some owner ∧ owner.Declares (.data source) ∧
      source.name = key.name ∧ source.kind = key.kind ∧ source.isStatic = key.isStatic := by
  obtain ⟨owner, howner, hfound⟩ := Option.bind_eq_some_iff.1 h
  refine ⟨owner, howner, ?_⟩
  cases hkind : key.kind with
  | field =>
    simp only [hkind, Option.map_eq_some_iff, Member.data.injEq] at hfound
    obtain ⟨f, hf, rfl⟩ := hfound
    have hmatch := List.find?_some hf
    rw [Bool.and_eq_true, beq_iff_eq, beq_iff_eq] at hmatch
    exact ⟨List.mem_of_find?_eq_some hf, hmatch.1, rfl, hmatch.2⟩
  | property =>
    simp only [hkind, Option.map_eq_some_iff, Member.data.injEq] at hfound
    obtain ⟨p, hp, rfl⟩ := hfound
    have hmatch := List.find?_some hp
    rw [Bool.and_eq_true, beq_iff_eq, beq_iff_eq] at hmatch
    exact ⟨List.mem_of_find?_eq_some hp, hmatch.1, rfl, hmatch.2⟩
  | constructor => simp [hkind] at hfound
  | method => simp [hkind] at hfound

theorem resolve?_eq_some_method_iff {key : MemberKey} {m : MethodInfo} :
    r.resolve? key = some (.method m) ↔
      key.kind = .method ∧
        ∃ owner, r.find? key.declaring = some owner ∧ resolveMethod? owner key = some m := by
  rw [resolve?]
  cases r.find? key.declaring with
  | none => simp
  | some owner => cases key.kind <;> simp

variable {owner : TypeInfo} {key : MemberKey} {m : MethodInfo}

/-- A key without type parameters denotes a plain method that matches it. -/
theorem matches_of_resolveMethod? (h : resolveMethod? owner key = some m)
    (harity : key.genericArity = 0) : m ∈ owner.methods ∧ key.matchesMethod m = true := by
  rw [resolveMethod?, if_pos harity] at h
  exact ⟨List.mem_of_find?_eq_some h, List.find?_some h⟩

/-- A key with type parameters denotes an instance of the generic method of its name, for its type
arguments. -/
theorem exists_instance_of_resolveMethod? (h : resolveMethod? owner key = some m)
    (harity : key.genericArity ≠ 0) :
    ∃ g i, owner.generic? key.name = some g ∧ i ∈ g.instances ∧
      i.typeArgs.map TypeRef.key = key.typeArgs ∧ i.method = m := by
  rw [resolveMethod?, if_neg harity] at h
  obtain ⟨g, hg, hfound⟩ := Option.bind_eq_some_iff.1 h
  split at hfound
  · obtain ⟨i, hi, rfl⟩ := Option.map_eq_some_iff.1 hfound
    exact ⟨g, i, hg, List.mem_of_find?_eq_some hi, by simpa using List.find?_some hi, rfl⟩
  · cases hfound

/-- The method that a key denotes is one of the type's, and has the name of the key. -/
theorem declares_of_resolveMethod? (h : resolveMethod? owner key = some m) :
    owner.Declares (.method m) ∧ m.name = key.name := by
  by_cases harity : key.genericArity = 0
  · obtain ⟨hm, hmatch⟩ := matches_of_resolveMethod? h harity
    exact ⟨.inl hm, (MemberKey.matchesMethod_iff.1 hmatch).1⟩
  · obtain ⟨g, i, hg, hi, -, rfl⟩ := exists_instance_of_resolveMethod? h harity
    have hmem : g ∈ owner.generics := List.mem_of_find?_eq_some hg
    exact ⟨.inr ⟨g, hmem, i, hi, rfl⟩,
      (owner.generics_fit g hmem i hi).2.1.trans (TypeInfo.name_of_generic? hg)⟩

/-- The key of a closed generic method with type parameters denotes the instance that it was closed
to: type arguments are equal when their keys are. -/
theorem resolveMethod?_ofClosedGeneric {name : String} {g : GenericMethodInfo}
    {typeArgs : List TypeRef} (hg : owner.generic? name = some g)
    (hm : g.instanceFor? typeArgs = some m) (harity : g.arity ≠ 0) :
    resolveMethod? owner (MemberDescriptor.ofClosedGeneric owner g typeArgs m).key = some m := by
  obtain ⟨hlength, hname, -⟩ := TypeInfo.fits_of_instanceFor? hg hm
  have hfound : owner.generic? m.name = some g := by
    rw [hname, TypeInfo.name_of_generic? hg, hg]
  -- Searching by the keys of the type arguments is searching by the type arguments.
  have hsearch : (fun i : GenericInstance => i.typeArgs.map TypeRef.key ==
      typeArgs.map TypeRef.key) = fun i => i.typeArgs == typeArgs := by
    funext i
    rw [Bool.eq_iff_iff, beq_iff_eq, beq_iff_eq, TypeRef.map_key_inj]
  have hparams : (MemberDescriptor.ofClosedGeneric owner g typeArgs m).key.genericArity ≠ 0 :=
    harity
  rw [resolveMethod?, if_neg hparams]
  change (owner.generic? m.name >>= fun g => if g.arity = (typeArgs.map TypeRef.key).length then
    (g.instances.find? fun i => i.typeArgs.map TypeRef.key == typeArgs.map TypeRef.key).map
      GenericInstance.method else none) = some m
  rw [hfound, Option.bind_eq_bind, Option.bind_some, List.length_map, if_pos hlength.symm, hsearch]
  exact hm

/-- The same for the registry of the type. -/
theorem resolve?_ofClosedGeneric (howner : r.find? owner.id = some owner) {name : String}
    {g : GenericMethodInfo} {typeArgs : List TypeRef} (hg : owner.generic? name = some g)
    (hm : g.instanceFor? typeArgs = some m) (harity : g.arity ≠ 0) :
    r.resolve? (MemberDescriptor.ofClosedGeneric owner g typeArgs m).key = some (.method m) :=
  resolve?_eq_some_method_iff.2
    ⟨rfl, owner, howner, resolveMethod?_ofClosedGeneric hg hm harity⟩

/-- The method that is found under the key of a descriptor which the same registry gives agrees with
the descriptor in its type, its scope and its parameters. -/
theorem Gives.agrees_of_resolve? {d : MemberDescriptor} (h : r.Gives d)
    (hclosed : d.isOpenGeneric = false) (hm : r.resolve? d.key = some (.method m)) :
    m.declaring = d.declaring ∧ m.isStatic = d.isStatic ∧ m.paramKeys = d.key.params := by
  obtain ⟨-, owner, howner, hmethod⟩ := resolve?_eq_some_method_iff.1 hm
  have hid : owner.id = d.declaring := id_of_find? howner
  refine ⟨(declares_of_resolveMethod? hmethod).1.declaring.trans hid, ?_⟩
  by_cases harity : d.key.genericArity = 0
  · exact (MemberKey.matchesMethod_iff.1 (matches_of_resolveMethod? hmethod harity).2).2
  · obtain ⟨other, hother, hdescribes⟩ := h.exists_owner
    obtain rfl : other = owner := by
      rw [← hdescribes.declaring] at hother
      exact Option.some.inj (hother.symm.trans howner)
    cases hdescribes with
    | closedGeneric hg hinstance =>
      rw [resolveMethod?_ofClosedGeneric hg hinstance harity, Option.some.injEq] at hmethod
      subst hmethod
      exact ⟨rfl, rfl⟩
    | openGeneric hg =>
      -- An open generic method lacks its type arguments.
      have hopen : (MemberDescriptor.ofOpenGeneric other _).isOpenGeneric = true :=
        decide_eq_true (Nat.pos_of_ne_zero harity)
      exact absurd (hopen.symm.trans hclosed) Bool.noConfusion
    | _ => exact absurd rfl harity

end Registry

end Reflection
