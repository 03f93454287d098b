import Reflection.Proofs.Hiding

/-!
# Origins of descriptors

A lookup finds a member of a type and describes it; the key of the descriptor leads to a member
again. The two test different things: a lookup goes by the name, or by the name and the types of the
parameters, and a key has the scope and the modes besides. Both take the first member that passes,
and what passes the test of the key passes the test of the lookup (`find?_of_coarser`), so they end
at the same member.

An `Origin` is the member that a lookup describes. `Lookup.origins` does what the lookup does, with
origins in place of descriptors.

Main statement: `Registry.leads_back`, the descriptors that a lookup gives are those of its origins,
and the key of each resolves to the member that it was made from.
-/

set_option autoImplicit false

namespace Reflection

open MemberTable

/-! ## First members of a type -/

namespace TypeInfo

variable {owner : TypeInfo} {name : String}

/-- The member is the first one of its name that the type declares, and a method the first one of
its name and its parameters. -/
def DeclaresFirst (owner : TypeInfo) : Member → Prop
  | .data (.field f) => owner.field? f.name = some f
  | .data (.property p) => owner.property? p.name = some p
  | .method m => (owner.methods.find? fun n => n.overloadKey == m.overloadKey) = some m
  | .constructor c => owner.constructor = some c

theorem DeclaresFirst.declares {member : Member} (h : owner.DeclaresFirst member) :
    owner.Declares member := by
  rcases member with (f | p) | m | c
  · exact List.mem_of_find?_eq_some h
  · exact List.mem_of_find?_eq_some h
  · exact .inl (List.mem_of_find?_eq_some h)
  · exact h

theorem declaresFirst_of_field? {f : FieldInfo} (h : owner.field? name = some f) :
    owner.DeclaresFirst (.data (.field f)) := by
  rwa [← name_of_field? h] at h

theorem declaresFirst_of_property? {p : PropertyInfo} (h : owner.property? name = some p) :
    owner.DeclaresFirst (.data (.property p)) := by
  rwa [← name_of_property? h] at h

theorem declaresFirst_of_dataMember? {x : DataMember} (h : owner.dataMember? name = some x) :
    owner.DeclaresFirst (.data x) := by
  rcases dataMember?_eq_some_iff.1 h with ⟨f, hf, rfl⟩ | ⟨-, p, hp, rfl⟩
  · exact declaresFirst_of_field? hf
  · exact declaresFirst_of_property? hp

/-- A search for methods that does not tell methods of one name and one parameter list apart. -/
theorem declaresFirst_of_find? {test : MethodInfo → Bool} {m : MethodInfo}
    (h : owner.methods.find? test = some m)
    (hcoarser : ∀ n, n.overloadKey = m.overloadKey → test n = true) :
    owner.DeclaresFirst (.method m) :=
  find?_of_coarser h (beq_self_eq_true m.overloadKey) fun n hn => hcoarser n (beq_iff_eq.1 hn)

theorem declaresFirst_of_find?_methodsNamed {test : MethodInfo → Bool} {m : MethodInfo}
    (h : (owner.methodsNamed name).find? test = some m)
    (hcoarser : ∀ n, n.overloadKey = m.overloadKey → test m = true → test n = true) :
    owner.DeclaresFirst (.method m) := by
  rw [methodsNamed, List.find?_filter] at h
  refine declaresFirst_of_find? h fun n hsame => ?_
  have hpasses := List.find?_some h
  rw [decide_eq_true_iff] at hpasses ⊢
  obtain ⟨hname, htest⟩ := hpasses
  exact ⟨(congrArg (·.1 == name) hsame).trans hname, hcoarser n hsame htest⟩

end TypeInfo

/-- Methods with one name and one parameter list have the same parameter types. -/
theorem MethodInfo.hasSignature_of_overloadKey_eq {m n : MethodInfo}
    (h : n.overloadKey = m.overloadKey) {types : List TypeRef} (hm : m.hasSignature types = true) :
    n.hasSignature types = true := by
  rw [hasSignature, ← hasTypes_map_key] at hm ⊢
  exact (congrArg (fun key => hasTypes types key.2) h).trans hm

namespace Registry

variable {r : Registry} {owner : TypeInfo}

/-- The key of the first method of a name and a parameter list denotes that method. -/
theorem resolve?_ofMethod (howner : r.find? owner.id = some owner) {m : MethodInfo}
    (hm : owner.DeclaresFirst (.method m)) :
    r.resolve? (MemberDescriptor.ofMethod owner m).key = some (.method m) := by
  have hfound : owner.methods.find? (MemberDescriptor.ofMethod owner m).key.matchesMethod =
      some m := by
    -- The key has the scope besides, so a method that it matches has the name and the parameters.
    refine find?_of_coarser hm (MemberKey.matchesMethod_iff.2 ⟨rfl, rfl, rfl⟩) fun n hn => ?_
    obtain ⟨hname, -, hparams⟩ := MemberKey.matchesMethod_iff.1 hn
    exact beq_iff_eq.2 (Prod.ext hname hparams)
  exact resolve?_eq_some_method_iff.2 ⟨rfl, owner, howner, hfound⟩

/-- The key of a constructor denotes the only constructor of the type. -/
theorem resolve?_ofConstructor (howner : r.find? owner.id = some owner) {c : ConstructorInfo}
    (hc : owner.constructor = some c) :
    r.resolve? (MemberDescriptor.ofConstructor owner c).key = some (.constructor c) := by
  have hdeclaring : r.find? (MemberDescriptor.ofConstructor owner c).key.declaring = some owner :=
    howner
  rw [resolve?, hdeclaring]
  change owner.constructor.map Member.constructor = some (.constructor c)
  rw [hc, Option.map_some]

end Registry

/-! ## Origins -/

/-- A member of a type, as a lookup finds it. -/
structure Origin where
  owner : TypeInfo
  member : Member

namespace Origin

/-- The descriptor of the member. -/
def descriptor (o : Origin) : MemberDescriptor :=
  match o.member with
  | .data x => .ofData o.owner x
  | .method m => .ofMethod o.owner m
  | .constructor c => .ofConstructor o.owner c

/-- The key of the first member of its kind denotes this member. -/
theorem resolve?_key {r : Registry} {o : Origin} (howner : r.find? o.owner.id = some o.owner)
    (h : o.owner.DeclaresFirst o.member) : r.resolve? o.descriptor.key = some o.member := by
  obtain ⟨owner, member⟩ := o
  cases member with
  | data x =>
    cases x with
    | field f => exact Registry.resolve?_ofField howner h
    | property p => exact Registry.resolve?_ofProperty howner h
  | method m => exact Registry.resolve?_ofMethod howner h
  | constructor c => exact Registry.resolve?_ofConstructor howner h

end Origin

namespace Registry

variable {r : Registry} {type : TypeId}

/-- The nearest member, with the type that declares it. -/
def nearestOrigin {α : Type} (r : Registry) (type : TypeId) (member : α → Member)
    (find : TypeInfo → Option α) : Option Origin :=
  (r.ancestors type).findSome? fun owner => (find owner).map fun x => ⟨owner, member x⟩

/-- The members that no nearer one with the same key hides, with the types that declare them. -/
def visibleOrigins {α κ : Type} [BEq κ] (r : Registry) (type : TypeId)
    (keyOf : MemberDescriptor → κ) (member : α → Member) (members : TypeInfo → List α) :
    List Origin :=
  ((r.ancestors type).flatMap fun owner => (members owner).map fun x => ⟨owner, member x⟩).foldl
    (addByKey fun o => keyOf o.descriptor) []

/-- The constructor of a type that has instances of its own. -/
def constructorOrigin (r : Registry) (type : TypeId) : Option Origin := do
  let owner ← r.find? type
  let c ← owner.constructor
  if owner.kind.isInstantiable then some ⟨owner, .constructor c⟩ else none

section

variable {α κ : Type} {member : α → Member} {describe : TypeInfo → α → MemberDescriptor}

/-- The nearest member is found before it is described. -/
theorem map_nearestOrigin {find : TypeInfo → Option α} {text : String}
    (h : ∀ owner x, describe owner x = (Origin.mk owner (member x)).descriptor) :
    (r.nearest type text fun owner => (find owner).map (describe owner)).toOption.toList =
      (r.nearestOrigin type member find).toList.map Origin.descriptor := by
  have hfound : ((r.ancestors type).findSome? fun owner => (find owner).map (describe owner)) =
      (r.nearestOrigin type member find).map Origin.descriptor := by
    rw [nearestOrigin, List.map_findSome?]
    simp only [Function.comp_def, Option.map_map, ← h]
  rw [nearest, hfound]
  cases r.nearestOrigin type member find <;> rfl

/-- So are the members that nothing hides. -/
theorem map_visibleOrigins [BEq κ] {keyOf : MemberDescriptor → κ} {members : TypeInfo → List α}
    (h : ∀ owner x, describe owner x = (Origin.mk owner (member x)).descriptor) :
    ((r.ancestors type).flatMap fun owner => (members owner).map (describe owner)).foldl
        (addByKey keyOf) [] =
      (r.visibleOrigins type keyOf member members).map Origin.descriptor := by
  rw [visibleOrigins, map_foldl_addByKey, List.map_flatMap]
  simp only [List.map_map, Function.comp_def, ← h, List.map_nil]

theorem of_mem_nearestOrigin {find : TypeInfo → Option α} {o : Origin}
    (h : o ∈ (r.nearestOrigin type member find).toList) :
    o.owner ∈ r.ancestors type ∧ ∃ x, find o.owner = some x ∧ member x = o.member := by
  obtain ⟨owner, howner, hfound⟩ := List.exists_of_findSome?_eq_some (Option.mem_toList.1 h)
  obtain ⟨x, hx, rfl⟩ := Option.map_eq_some_iff.1 hfound
  exact ⟨howner, x, hx, rfl⟩

/-- A member that nothing hides is the first one of its key in its type. -/
theorem of_mem_visibleOrigins [BEq κ] [LawfulBEq κ] {keyOf : MemberDescriptor → κ}
    {members : TypeInfo → List α} {o : Origin}
    (h : o ∈ r.visibleOrigins type keyOf member members) :
    o.owner ∈ r.ancestors type ∧ ∃ x,
      ((members o.owner).find? fun y =>
        keyOf (Origin.mk o.owner (member y)).descriptor == keyOf o.descriptor) = some x ∧
      member x = o.member := by
  rw [visibleOrigins, mem_foldl_addByKey_iff, List.find?_flatMap] at h
  obtain ⟨owner, howner, hfound⟩ := List.exists_of_findSome?_eq_some h
  rw [List.find?_map, Option.map_eq_some_iff] at hfound
  obtain ⟨x, hx, rfl⟩ := hfound
  exact ⟨howner, x, hx, rfl⟩

end

theorem map_constructorOrigin :
    (r.constructor type).toOption.toList =
      (r.constructorOrigin type).toList.map Origin.descriptor := by
  rw [constructor, constructorOrigin]
  cases r.find? type with
  | none => rfl
  | some owner =>
    cases hconstructor : owner.constructor with
    | none => simp [hconstructor, Except.toOption]
    | some c =>
      cases hkind : owner.kind.isInstantiable <;>
        simp [hconstructor, hkind, Except.toOption, Origin.descriptor]

theorem of_mem_constructorOrigin {o : Origin} (h : o ∈ (r.constructorOrigin type).toList) :
    r.find? type = some o.owner ∧ o.owner.DeclaresFirst o.member := by
  simp only [constructorOrigin, Option.mem_toList, Option.bind_eq_bind, Option.bind_eq_some_iff,
    Option.ite_none_right_eq_some, Option.some.injEq] at h
  obtain ⟨owner, howner, c, hc, -, rfl⟩ := h
  exact ⟨howner, hc⟩

end Registry

/-- The ways to get descriptors of members that are not generic. -/
inductive Lookup where
  | field (name : String)
  | property (name : String)
  | member (name : String)
  | method (name : String) (types : List TypeRef)
  | methods (name : String)
  | constructor
  | tableData
  | tableMethods

namespace Lookup

/-- What a lookup gives for a type. -/
def descriptors (r : Registry) (type : TypeId) : Lookup → List MemberDescriptor
  | field name => (r.field type name).toOption.toList
  | property name => (r.property type name).toOption.toList
  | member name => (r.member type name).toOption.toList
  | method name types => (r.method type name types).toOption.toList
  | methods name => r.methods type name
  | constructor => (r.constructor type).toOption.toList
  | tableData => (build r type).dataMembers
  | tableMethods => (build r type).methods

/-- What a lookup finds for a type, before it is described. -/
def origins (r : Registry) (type : TypeId) : Lookup → List Origin
  | field name => (r.nearestOrigin type (.data ∘ .field) fun owner => owner.field? name).toList
  | property name =>
    (r.nearestOrigin type (.data ∘ .property) fun owner => owner.property? name).toList
  | member name => (r.nearestOrigin type .data fun owner => owner.dataMember? name).toList
  | method name types =>
    (r.nearestOrigin type .method fun owner =>
      (owner.methodsNamed name).find? fun m => m.hasSignature types).toList
  | methods name =>
    r.visibleOrigins type Registry.paramsOf .method fun owner => owner.methodsNamed name
  | constructor => (r.constructorOrigin type).toList
  | tableData => r.visibleOrigins type MemberDescriptor.name .data TypeInfo.dataMembers
  | tableMethods => r.visibleOrigins type overloadKey .method TypeInfo.methods

/-- The descriptors that a lookup gives are those of its origins. -/
theorem descriptors_eq (r : Registry) (type : TypeId) (q : Lookup) :
    q.descriptors r type = (q.origins r type).map Origin.descriptor := by
  cases q with
  | field name => exact Registry.map_nearestOrigin fun _ _ => rfl
  | property name => exact Registry.map_nearestOrigin fun _ _ => rfl
  | member name => exact Registry.map_nearestOrigin fun _ _ => rfl
  | method name types => exact Registry.map_nearestOrigin fun _ _ => rfl
  | methods name => exact Registry.map_visibleOrigins fun _ _ => rfl
  | constructor => exact Registry.map_constructorOrigin
  | tableData =>
    rw [descriptors, dataMembers_build, addByName_eq]
    exact Registry.map_visibleOrigins fun _ _ => rfl
  | tableMethods =>
    rw [descriptors, methods_build, addMethod_eq]
    exact Registry.map_visibleOrigins fun _ _ => rfl

/-- Every origin of a lookup is the first member of its kind that an ancestor declares. -/
theorem declaresFirst_of_mem_origins {r : Registry} {type : TypeId} {q : Lookup} {o : Origin}
    (h : o ∈ q.origins r type) :
    o.owner ∈ r.ancestors type ∧ o.owner.DeclaresFirst o.member := by
  obtain ⟨owner, member⟩ := o
  cases q with
  | field name =>
    obtain ⟨howner, f, hf, rfl⟩ := Registry.of_mem_nearestOrigin h
    exact ⟨howner, TypeInfo.declaresFirst_of_field? hf⟩
  | property name =>
    obtain ⟨howner, p, hp, rfl⟩ := Registry.of_mem_nearestOrigin h
    exact ⟨howner, TypeInfo.declaresFirst_of_property? hp⟩
  | member name =>
    obtain ⟨howner, x, hx, rfl⟩ := Registry.of_mem_nearestOrigin h
    exact ⟨howner, TypeInfo.declaresFirst_of_dataMember? hx⟩
  | method name types =>
    obtain ⟨howner, m, hm, rfl⟩ := Registry.of_mem_nearestOrigin h
    refine ⟨howner, TypeInfo.declaresFirst_of_find?_methodsNamed hm ?_⟩
    intro n hsame htypes
    exact MethodInfo.hasSignature_of_overloadKey_eq hsame htypes
  | methods name =>
    obtain ⟨howner, m, hm, rfl⟩ := Registry.of_mem_visibleOrigins h
    refine ⟨howner, TypeInfo.declaresFirst_of_find?_methodsNamed hm ?_⟩
    intro n hsame _
    exact beq_iff_eq.2 (congrArg Prod.snd hsame)
  | constructor =>
    obtain ⟨howner, hfirst⟩ := Registry.of_mem_constructorOrigin h
    exact ⟨Registry.mem_ancestors_of_find? howner, hfirst⟩
  | tableData =>
    obtain ⟨howner, x, hx, rfl⟩ := Registry.of_mem_visibleOrigins h
    -- Fields and properties of one name share a key, and the table keeps the field.
    have hfirst : owner.dataMembers.find? (fun y => y.name == x.name) = some x := by
      simpa only [Origin.descriptor, name_ofData] using hx
    rw [find?_dataMembers] at hfirst
    exact ⟨howner, TypeInfo.declaresFirst_of_dataMember? hfirst⟩
  | tableMethods =>
    obtain ⟨howner, m, hm, rfl⟩ := Registry.of_mem_visibleOrigins h
    refine ⟨howner, TypeInfo.declaresFirst_of_find? hm ?_⟩
    intro n hsame
    exact beq_iff_eq.2 hsame

end Lookup

/-- Every descriptor that a lookup gives was made from a member of an ancestor, and its key leads
back to that member. -/
theorem Registry.leads_back (r : Registry) (type : TypeId) (q : Lookup) :
    q.descriptors r type = (q.origins r type).map Origin.descriptor ∧
      ∀ o ∈ q.origins r type, o.owner ∈ r.ancestors type ∧ o.owner.Declares o.member ∧
        r.resolve? o.descriptor.key = some o.member := by
  refine ⟨q.descriptors_eq r type, fun o ho => ?_⟩
  obtain ⟨howner, hfirst⟩ := Lookup.declaresFirst_of_mem_origins ho
  exact ⟨howner, hfirst.declares, Origin.resolve?_key (find?_id_of_mem_chain howner) hfirst⟩

end Reflection
