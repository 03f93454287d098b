import Reflection.Proofs.Descriptors
import Reflection.Proofs.HierarchyOrder

/-!
# Hiding

A method hides every method of its name and its parameters that stands behind it, on a farther
ancestor or later on the same type. What is left is found in three ways: by a walk along the
ancestors for one name, by the member table, which collects all names at once, and by a search for
a name with parameter types.

Main statements: `MemberTable.agrees_with_walks`, the table and the walks give the same
descriptors, and `Registry.keepsNearest`, of every signature that the type or an ancestor declares
exactly the nearest declaration is left (`Registry.IsNearest`), and the search gives the first
method that is left with the parameter types.
-/

set_option autoImplicit false

namespace Reflection

open MemberTable

/-- Whether parameters have exactly these types; modes do not count. -/
def hasTypes (types : List TypeRef) (params : List ParamKey) : Bool :=
  params.map ParamKey.type == types.map TypeRef.key

/-- The types are part of what methods are told apart by. -/
theorem hasTypes_map_key (types : List TypeRef) (params : List ParamInfo) :
    hasTypes types (params.map ParamInfo.key) = (params.map ParamInfo.type == types) := by
  rw [Bool.eq_iff_iff, hasTypes, beq_iff_eq, beq_iff_eq, ← TypeRef.map_key_inj, List.map_map,
    List.map_map]
  rfl

namespace Registry

variable {r : Registry} {type : TypeId} {name : String}

/-- The methods of a name that the type and its ancestors declare, hidden ones too, the most derived
type first. -/
def declaredMethods (r : Registry) (type : TypeId) (name : String) : List MemberDescriptor :=
  (r.ancestors type).flatMap fun owner => (owner.methodsNamed name).map (.ofMethod owner)

/-- The parameters of a method, with their types and modes. -/
def paramsOf (d : MemberDescriptor) : List ParamKey :=
  d.key.params

theorem methods_eq (r : Registry) (type : TypeId) (name : String) :
    r.methods type name = (r.declaredMethods type name).foldl (addByKey paramsOf) [] :=
  rfl

end Registry

/-! ## The table and the walks -/

namespace MemberTable

/-- The table holds the methods of a name that the walk for the name gives. -/
theorem methodsNamed_build (r : Registry) (type : TypeId) (name : String) :
    (build r type).methodsNamed name = r.methods type name := by
  have hkey : ∀ x y : MemberDescriptor, (y.name == name) = true →
      (overloadKey x == overloadKey y) =
        (x.name == name && Registry.paramsOf x == Registry.paramsOf y) := by
    intro x y hy
    rw [← beq_iff_eq.1 hy]
    rfl
  have hdeclared : ((r.ancestors type).flatMap fun owner =>
      owner.methods.map (MemberDescriptor.ofMethod owner)).filter (fun d => d.name == name) =
        r.declaredMethods type name := by
    rw [List.filter_flatMap, Registry.declaredMethods]
    simp only [List.filter_map]
    rfl
  rw [methodsNamed, methods_build, addMethod_eq,
    filter_foldl_addByKey overloadKey Registry.paramsOf hkey, hdeclared]
  rfl

/-- The table of a type gives the descriptors that the walks along its ancestors give: the data
member of a name, all methods of a name in their order, and the generic method of a name. -/
theorem agrees_with_walks (r : Registry) (type : TypeId) (name : String) :
    (build r type).dataMember? name = (r.member type name).toOption ∧
      (build r type).methodsNamed name = r.methods type name ∧
        (build r type).generic? name = (r.generic type name).toOption := by
  refine ⟨?_, methodsNamed_build r type name, ?_⟩
  · rw [Registry.member_eq]
    cases (build r type).dataMember? name <;> rfl
  · rw [generic?_build, Registry.generic, Registry.nearest]
    cases (r.ancestors type).findSome? fun owner =>
      (owner.generic? name).map (MemberDescriptor.ofOpenGeneric owner) <;> rfl

end MemberTable

/-! ## The nearest declaration of a signature -/

/-- What the method is told apart by. -/
def MethodInfo.overloadKey (m : MethodInfo) : String × List ParamKey :=
  (m.name, m.paramKeys)

namespace Registry

variable {r : Registry} {type : TypeId} {name : String}

/-- The method is the nearest one of a name and a parameter list: its type declares none before it,
and no type nearer than its own declares any. -/
def IsNearest (r : Registry) (type : TypeId) (key : String × List ParamKey) (owner : TypeInfo)
    (m : MethodInfo) : Prop :=
  ∃ nearer farther before after,
    r.ancestors type = nearer ++ owner :: farther ∧ owner.methods = before ++ m :: after ∧
      m.overloadKey = key ∧ (∀ n ∈ before, n.overloadKey ≠ key) ∧
        ∀ other ∈ nearer, ∀ n ∈ other.methods, n.overloadKey ≠ key

theorem find?_map_ofMethod (owner : TypeInfo) (key : String × List ParamKey) :
    ((owner.methods.map (MemberDescriptor.ofMethod owner)).find? fun d => overloadKey d == key) =
      (owner.methods.find? fun m => m.overloadKey == key).map (.ofMethod owner) :=
  List.find?_map ..

/-- Looking for a signature along the ancestors finds its nearest declaration. -/
theorem findSome?_eq_some_iff_isNearest {key : String × List ParamKey} {d : MemberDescriptor} :
    ((r.ancestors type).findSome? fun owner =>
        (owner.methods.map (.ofMethod owner)).find? fun seen => overloadKey seen == key) = some d ↔
      ∃ owner m, r.IsNearest type key owner m ∧ d = .ofMethod owner m := by
  simp only [find?_map_ofMethod, List.findSome?_eq_some_iff, Option.map_eq_some_iff,
    Option.map_eq_none_iff, List.find?_eq_some_iff_append, List.find?_eq_none, beq_iff_eq,
    Bool.not_eq_true', beq_eq_false_iff_ne]
  constructor
  · rintro ⟨nearer, owner, farther, hancestors, ⟨m, ⟨hkey, before, after, hmethods, hbefore⟩, rfl⟩,
      hnearer⟩
    exact ⟨owner, m, ⟨nearer, farther, before, after, hancestors, hmethods, hkey, hbefore, hnearer⟩,
      rfl⟩
  · rintro ⟨owner, m, ⟨nearer, farther, before, after, hancestors, hmethods, hkey, hbefore,
      hnearer⟩, rfl⟩
    exact ⟨nearer, owner, farther, hancestors, ⟨m, ⟨hkey, before, after, hmethods, hbefore⟩, rfl⟩,
      hnearer⟩

theorem mem_methods_iff {d : MemberDescriptor} :
    d ∈ r.methods type name ↔ d.name = name ∧
      ∃ owner m, r.IsNearest type (overloadKey d) owner m ∧ d = .ofMethod owner m := by
  rw [← methodsNamed_build, methodsNamed, List.mem_filter, mem_methods_build_iff,
    findSome?_eq_some_iff_isNearest, beq_iff_eq, and_comm]

theorem pairwise_methods (r : Registry) (type : TypeId) (name : String) :
    (r.methods type name).Pairwise fun a b => paramsOf a ≠ paramsOf b :=
  pairwise_foldl_addByKey paramsOf .nil (r.declaredMethods type name)

/-- Of the methods that are left, the one with the parameters of a method that is declared is the
nearest declaration. -/
theorem exists_isNearest {owner : TypeInfo} (howner : owner ∈ r.ancestors type) {m : MethodInfo}
    (hm : m ∈ owner.methods) :
    ∃ near first, r.IsNearest type m.overloadKey near first ∧
      (r.methods type m.name).filter (fun d => paramsOf d == m.paramKeys) =
        [.ofMethod near first] := by
  -- The method itself is a hit, so there is a first one.
  have hsome : ((r.ancestors type).findSome? fun owner =>
      (owner.methods.map (.ofMethod owner)).find? fun seen =>
        overloadKey seen == m.overloadKey).isSome := by
    rw [List.findSome?_isSome_iff]
    refine ⟨owner, howner, List.find?_isSome.2 ⟨.ofMethod owner m, List.mem_map_of_mem hm, ?_⟩⟩
    exact beq_self_eq_true m.overloadKey
  obtain ⟨d, hd⟩ := Option.isSome_iff_exists.1 hsome
  obtain ⟨near, first, hnearest, rfl⟩ := findSome?_eq_some_iff_isNearest.1 hd
  obtain ⟨-, -, -, -, -, -, hkey, -⟩ := id hnearest
  have hmem : MemberDescriptor.ofMethod near first ∈ r.methods type m.name := by
    refine mem_methods_iff.2 ⟨congrArg Prod.fst hkey, near, first, ?_, rfl⟩
    change r.IsNearest type first.overloadKey near first
    rwa [hkey]
  have hparams : m.paramKeys = paramsOf (.ofMethod near first) := (congrArg Prod.snd hkey).symm
  refine ⟨near, first, hnearest, ?_⟩
  rw [hparams]
  exact filter_eq_singleton_of_mem paramsOf (r.pairwise_methods type m.name) hmem

/-- The methods that are left stand in the order of the hierarchy. -/
theorem pairwise_isAssignable_methods (r : Registry) (type : TypeId) (name : String) :
    (r.methods type name).Pairwise fun a b => r.isAssignable a.declaring b.declaring = true := by
  have hdeclaring : ∀ {owner : TypeInfo} {d : MemberDescriptor},
      d ∈ (owner.methodsNamed name).map (MemberDescriptor.ofMethod owner) →
        d.declaring = owner.id := by
    intro owner d hd
    obtain ⟨m, -, rfl⟩ := List.mem_map.1 hd
    rfl
  have hdeclared : (r.declaredMethods type name).Pairwise fun a b =>
      r.isAssignable a.declaring b.declaring = true := by
    rw [declaredMethods, List.pairwise_flatMap]
    -- Inside one type all have one declaring type, and the types stand in the order of the chain.
    constructor
    · intro owner _
      refine List.pairwise_of_forall_mem_list fun a ha b hb => ?_
      rw [hdeclaring ha, hdeclaring hb]
      exact r.isAssignable_self owner.id
    · refine (r.pairwise_isAssignable_chain r.size type).imp fun horder a ha b hb => ?_
      rw [hdeclaring ha, hdeclaring hb]
      exact horder
  exact hdeclared.sublist (sublist_foldl_addByKey paramsOf [] (r.declaredMethods type name))

/-- Looking for parameter types among the methods that are left finds what looking along the
ancestors finds: what is hidden is hidden by a method with the same types. -/
theorem find?_methods (r : Registry) (type : TypeId) (name : String) (types : List TypeRef) :
    ((r.methods type name).find? fun d => d.params.map ParamInfo.type == types) =
      (r.ancestors type).findSome? fun owner =>
        ((owner.methodsNamed name).find? fun m => m.hasSignature types).map (.ofMethod owner) := by
  have htypes : (fun d : MemberDescriptor => d.params.map ParamInfo.type == types) =
      fun d => hasTypes types (paramsOf d) :=
    funext fun d => (hasTypes_map_key types d.params).symm
  rw [htypes, methods_eq, declaredMethods, find?_foldl_addByKey_flatMap paramsOf (hasTypes types),
    ← htypes]
  simp only [List.find?_map]
  rfl

/-- What hiding leaves of the methods of a name. -/
structure KeepsNearest (r : Registry) (type : TypeId) (name : String) : Prop where
  /-- No two methods have the same parameter types and modes. -/
  distinct : (r.methods type name).Pairwise fun a b => a.key.params ≠ b.key.params
  /-- For every method that the type or an ancestor declares, exactly one method with its parameters
  is left, and it is the nearest declaration. -/
  nearest : ∀ owner ∈ r.ancestors type, ∀ m ∈ owner.methods, m.name = name →
    ∃ near first, r.IsNearest type (name, m.paramKeys) near first ∧
      (r.methods type name).filter (fun d => d.key.params == m.paramKeys) =
        [.ofMethod near first]
  /-- Nothing else is left. -/
  declared : ∀ d ∈ r.methods type name, ∃ owner m,
    r.IsNearest type (name, d.key.params) owner m ∧ d = .ofMethod owner m
  /-- The methods stand in the order in which they are declared, -/
  order : (r.methods type name).Sublist (r.declaredMethods type name)
  /-- and a method of a type before those of the types that it derives from. -/
  derivedFirst : (r.methods type name).Pairwise fun a b =>
    r.isAssignable a.declaring b.declaring = true
  /-- A search for parameter types gives the first method with these types that is left. -/
  search : ∀ types, r.method type name types =
    match (r.methods type name).find? fun d => d.params.map ParamInfo.type == types with
    | some d => .ok d
    | none => .error (r.notFound type (signature name (types.map TypeRef.display)))

/-- Hiding keeps exactly the nearest declaration of each signature. -/
theorem keepsNearest (r : Registry) (type : TypeId) (name : String) :
    r.KeepsNearest type name where
  distinct := r.pairwise_methods type name
  nearest := by
    rintro owner howner m hm rfl
    exact exists_isNearest howner hm
  declared d hd := by
    obtain ⟨rfl, hnearest⟩ := mem_methods_iff.1 hd
    exact hnearest
  order := sublist_foldl_addByKey paramsOf [] (r.declaredMethods type name)
  derivedFirst := r.pairwise_isAssignable_methods type name
  search types := by
    rw [find?_methods]
    rfl

end Registry

end Reflection
