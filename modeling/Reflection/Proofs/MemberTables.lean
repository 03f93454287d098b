import Reflection.Dispatch.MemberTable
import Reflection.Proofs.Hierarchy

/-!
# Members of member tables

Every method of a member table is a plain method of the type or of an ancestor
(`MemberTable.exists_of_mem_methods_build`), and its key denotes a method of that same ancestor
(`Registry.resolve?_key_ofMethod`). The generic method of a name is the one of the nearest ancestor
that has one (`MemberTable.generic?_build`), and so is the data member
(`MemberTable.dataMember?_build`).

Tables and walks collect members in one way: the first one of each key stays
(`MemberTable.addByKey`). The laws of that fold are stated for any items and keys.
-/

set_option autoImplicit false

namespace Reflection

namespace MemberTable

theorem head_foldl_addOwner (owners : List TypeInfo) (table : MemberTable) :
    (owners.foldl addOwner table).type = table.type ∧
      (owners.foldl addOwner table).typeName = table.typeName := by
  induction owners generalizing table with
  | nil => exact ⟨rfl, rfl⟩
  | cons owner owners ih => exact ih (table.addOwner owner)

@[simp]
theorem type_build (r : Registry) (type : TypeId) : (build r type).type = type :=
  (head_foldl_addOwner (r.ancestors type) (empty type (r.nameOf type))).1

@[simp]
theorem typeName_build (r : Registry) (type : TypeId) :
    (build r type).typeName = r.nameOf type :=
  (head_foldl_addOwner (r.ancestors type) (empty type (r.nameOf type))).2

/-! ## The three lists of a table -/

theorem dataMembers_build (r : Registry) (type : TypeId) :
    (build r type).dataMembers =
      ((r.ancestors type).flatMap fun owner => owner.dataMembers.map (.ofData owner)).foldl
        addByName [] := by
  rw [List.foldl_flatMap]
  exact (List.foldl_hom dataMembers fun _ _ => rfl).symm

theorem methods_build (r : Registry) (type : TypeId) :
    (build r type).methods =
      ((r.ancestors type).flatMap fun owner => owner.methods.map (.ofMethod owner)).foldl
        addMethod [] := by
  rw [List.foldl_flatMap]
  exact (List.foldl_hom methods fun _ _ => rfl).symm

theorem generics_build (r : Registry) (type : TypeId) :
    (build r type).generics =
      ((r.ancestors type).flatMap fun owner => owner.generics.map (.ofOpenGeneric owner)).foldl
        addByName [] := by
  rw [List.foldl_flatMap]
  exact (List.foldl_hom generics fun _ _ => rfl).symm

theorem mem_or_eq_of_mem_ite {hidden : Prop} [Decidable hidden] {d new : MemberDescriptor}
    {members : List MemberDescriptor}
    (h : d ∈ if hidden then members else members ++ [new]) : d ∈ members ∨ d = new := by
  split at h
  · exact .inl h
  · exact (List.mem_append.1 h).imp_right List.mem_singleton.1

/-- Members that are added one by one are the old ones and the new ones. -/
theorem mem_or_mem_of_mem_foldl
    {add : List MemberDescriptor → MemberDescriptor → List MemberDescriptor}
    (hadd : ∀ members new, ∀ d ∈ add members new, d ∈ members ∨ d = new)
    {d : MemberDescriptor} {members news : List MemberDescriptor}
    (h : d ∈ news.foldl add members) : d ∈ members ∨ d ∈ news := by
  induction news generalizing members with
  | nil => exact .inl h
  | cons new news ih =>
    rcases ih h with hfirst | hnews
    · rcases hadd members new d hfirst with hold | rfl
      · exact .inl hold
      · exact .inr List.mem_cons_self
    · exact .inr (List.mem_cons_of_mem new hnews)

/-- Members that are collected along a chain are members of the types on it. -/
theorem exists_of_mem_foldl_flatMap {α : Type}
    {add : List MemberDescriptor → MemberDescriptor → List MemberDescriptor}
    (hadd : ∀ members new, ∀ d ∈ add members new, d ∈ members ∨ d = new)
    {xs : TypeInfo → List α} {describe : TypeInfo → α → MemberDescriptor} {owners : List TypeInfo}
    {d : MemberDescriptor}
    (h : d ∈ (owners.flatMap fun owner => (xs owner).map (describe owner)).foldl add []) :
    ∃ owner ∈ owners, ∃ x ∈ xs owner, d = describe owner x := by
  rcases mem_or_mem_of_mem_foldl hadd h with hempty | hnew
  · cases hempty
  · obtain ⟨owner, howner, hd⟩ := List.mem_flatMap.1 hnew
    obtain ⟨x, hx, rfl⟩ := List.mem_map.1 hd
    exact ⟨owner, howner, x, hx, rfl⟩

section

variable {r : Registry} {type : TypeId} {d : MemberDescriptor}

/-- A method of a table is a plain method of the type or of one of its ancestors. -/
theorem exists_of_mem_methods_build (h : d ∈ (build r type).methods) :
    ∃ owner ∈ r.ancestors type, ∃ m ∈ owner.methods, d = .ofMethod owner m := by
  rw [methods_build] at h
  exact exists_of_mem_foldl_flatMap (fun _ _ _ hadd => mem_or_eq_of_mem_ite hadd) h

theorem exists_of_mem_generics_build (h : d ∈ (build r type).generics) :
    ∃ owner ∈ r.ancestors type, ∃ g ∈ owner.generics, d = .ofOpenGeneric owner g := by
  rw [generics_build] at h
  exact exists_of_mem_foldl_flatMap (fun _ _ _ hadd => mem_or_eq_of_mem_ite hadd) h

end

/-! ## Members by key

Data members and generic methods are told apart by their names, methods by their names and
parameters (`MemberTable.overloadKey`). -/

section

variable {α κ : Type} [BEq κ] (keyOf : α → κ)

/-- Adds an item unless one of its key is there. -/
def addByKey (items : List α) (item : α) : List α :=
  if items.any fun seen => keyOf seen == keyOf item then items else items ++ [item]

/-- The items that are kept are in the old order. -/
theorem sublist_foldl_addByKey (items news : List α) :
    (news.foldl (addByKey keyOf) items).Sublist (items ++ news) := by
  induction news generalizing items with
  | nil => simp
  | cons new news ih =>
    refine (ih (addByKey keyOf items new)).trans ?_
    rw [addByKey]
    split
    · exact (List.sublist_cons_self new news).append_left items
    · simp

/-- Items may be described before or after those of one key are left out. -/
theorem map_foldl_addByKey {β : Type} (describe : β → α) (items news : List β) :
    (news.foldl (addByKey fun x => keyOf (describe x)) items).map describe =
      (news.map describe).foldl (addByKey keyOf) (items.map describe) := by
  rw [List.foldl_map]
  refine (List.foldl_hom (List.map describe) fun seen new => ?_).symm
  rw [addByKey, addByKey, List.any_map]
  simp only [Function.comp_def]
  split
  · rfl
  · rw [List.map_append, List.map_singleton]

/-- Among the items with a property, other keys may tell apart what the keys do. -/
theorem filter_foldl_addByKey {μ : Type} [BEq μ] (other : α → μ) {p : α → Bool}
    (h : ∀ x y, p y = true → (keyOf x == keyOf y) = (p x && other x == other y))
    (items news : List α) :
    (news.foldl (addByKey keyOf) items).filter p =
      (news.filter p).foldl (addByKey other) (items.filter p) := by
  induction news generalizing items with
  | nil => rfl
  | cons new news ih =>
    rw [List.foldl_cons, ih, addByKey]
    cases hnew : p new with
    | false =>
      -- A new item without the property hides nothing that has it, and is not seen itself.
      rw [List.filter_cons_of_neg (by simp [hnew])]
      split
      · rfl
      · simp [hnew]
    | true =>
      rw [List.filter_cons_of_pos hnew, List.foldl_cons, addByKey, List.any_filter]
      simp only [h _ _ hnew]
      split
      · rfl
      · simp [hnew]

variable [LawfulBEq κ]

/-- Looking for a property of keys, items that were there first are found first. -/
theorem find?_foldl_addByKey (p : κ → Bool) (items news : List α) :
    (news.foldl (addByKey keyOf) items).find? (fun x => p (keyOf x)) =
      (items.find? fun x => p (keyOf x)).or (news.find? fun x => p (keyOf x)) := by
  induction news generalizing items with
  | nil => simp
  | cons new news ih =>
    rw [List.foldl_cons, ih, addByKey, List.find?_cons]
    split
    · -- What is left out would not be found: an item of its key stands before it.
      rename_i hhidden
      obtain ⟨seen, hseen, hsame⟩ := List.any_eq_true.1 hhidden
      cases hnew : p (keyOf new) with
      | false => rfl
      | true =>
        have hfound : (items.find? fun x => p (keyOf x)).isSome :=
          List.find?_isSome.2 ⟨seen, hseen, (congrArg p (beq_iff_eq.1 hsame)).trans hnew⟩
        obtain ⟨x, hx⟩ := Option.isSome_iff_exists.1 hfound
        rw [hx, Option.some_or, Option.some_or]
    · cases hnew : p (keyOf new) <;> simp [hnew]

/-- Members that are collected along a chain are found where they are first declared. -/
theorem find?_foldl_addByKey_flatMap (p : κ → Bool) (members : TypeInfo → List α)
    (owners : List TypeInfo) :
    ((owners.flatMap members).foldl (addByKey keyOf) []).find? (fun x => p (keyOf x)) =
      owners.findSome? fun owner => (members owner).find? fun x => p (keyOf x) := by
  rw [find?_foldl_addByKey, List.find?_nil, Option.none_or, List.find?_flatMap]

/-- No two items that are kept have one key. -/
theorem pairwise_foldl_addByKey {items : List α}
    (h : items.Pairwise fun a b => keyOf a ≠ keyOf b) (news : List α) :
    (news.foldl (addByKey keyOf) items).Pairwise fun a b => keyOf a ≠ keyOf b := by
  induction news generalizing items with
  | nil => exact h
  | cons new news ih =>
    refine ih ?_
    rw [addByKey]
    split
    · exact h
    · rename_i hfree
      refine List.pairwise_append.2 ⟨h, List.pairwise_singleton .., ?_⟩
      intro seen hseen x hx hsame
      rw [List.mem_singleton.1 hx] at hsame
      exact hfree (List.any_eq_true.2 ⟨seen, hseen, beq_iff_eq.2 hsame⟩)

/-- If no two items have one key, each is the only one of its key. -/
theorem filter_eq_singleton_of_mem {items : List α}
    (h : items.Pairwise fun a b => keyOf a ≠ keyOf b) {x : α} (hx : x ∈ items) :
    (items.filter fun seen => keyOf seen == keyOf x) = [x] := by
  induction h with
  | nil => cases hx
  | @cons first rest hfirst _ ih =>
    rcases List.mem_cons.1 hx with rfl | hrest
    · have hnone : (rest.filter fun seen => keyOf seen == keyOf x) = [] :=
        List.filter_eq_nil_iff.2 fun seen hseen hsame =>
          hfirst seen hseen (beq_iff_eq.1 hsame).symm
      rw [List.filter_cons, if_pos (beq_self_eq_true (keyOf x)), hnone]
    · have hother : (keyOf first == keyOf x) = false := beq_false_of_ne (hfirst x hrest)
      rw [List.filter_cons_of_neg (by simp [hother]), ih hrest]

/-- An item is kept if it is the first one of its key. -/
theorem mem_foldl_addByKey_iff {news : List α} {x : α} :
    x ∈ news.foldl (addByKey keyOf) [] ↔
      (news.find? fun seen => keyOf seen == keyOf x) = some x := by
  have hfind := find?_foldl_addByKey keyOf (· == keyOf x) [] news
  rw [List.find?_nil, Option.none_or] at hfind
  rw [← hfind]
  refine ⟨fun hx => ?_, List.mem_of_find?_eq_some⟩
  rw [← List.head?_filter,
    filter_eq_singleton_of_mem keyOf (pairwise_foldl_addByKey keyOf .nil news) hx, List.head?_cons]

end

theorem addByName_eq : addByName = addByKey MemberDescriptor.name := rfl

/-- What methods are told apart by. -/
def overloadKey (d : MemberDescriptor) : String × List ParamKey :=
  (d.name, d.key.params)

theorem addMethod_eq : addMethod = addByKey overloadKey := rfl

/-- A table holds the methods whose name and parameters no nearer method has. -/
theorem mem_methods_build_iff {r : Registry} {type : TypeId} {d : MemberDescriptor} :
    d ∈ (build r type).methods ↔
      ((r.ancestors type).findSome? fun owner =>
        (owner.methods.map (.ofMethod owner)).find? fun seen =>
          overloadKey seen == overloadKey d) = some d := by
  rw [methods_build, addMethod_eq, mem_foldl_addByKey_iff, List.find?_flatMap]

theorem nodup_methods_build (r : Registry) (type : TypeId) : (build r type).methods.Nodup := by
  rw [methods_build, addMethod_eq]
  refine (pairwise_foldl_addByKey overloadKey .nil _).imp fun hkey heq => ?_
  exact hkey (congrArg overloadKey heq)

/-! ## The member of a name -/

theorem find?_map_ofOpenGeneric (owner : TypeInfo) (name : String) :
    (owner.generics.map (MemberDescriptor.ofOpenGeneric owner)).find? (fun d => d.name == name) =
      (owner.generic? name).map (.ofOpenGeneric owner) :=
  List.find?_map ..

/-- In one type the fields come before the properties. -/
theorem find?_dataMembers (owner : TypeInfo) (name : String) :
    owner.dataMembers.find? (fun x => x.name == name) = owner.dataMember? name := by
  rw [TypeInfo.dataMembers, List.find?_append, List.find?_map, List.find?_map,
    TypeInfo.dataMember?, Option.orElse_eq_orElse, Option.orElse_eq_or]
  rfl

@[simp]
theorem name_ofData (owner : TypeInfo) (x : DataMember) :
    (MemberDescriptor.ofData owner x).name = x.name := by
  cases x <;> rfl

theorem find?_map_ofData (owner : TypeInfo) (name : String) :
    (owner.dataMembers.map (MemberDescriptor.ofData owner)).find? (fun d => d.name == name) =
      (owner.dataMember? name).map (.ofData owner) := by
  simp only [List.find?_map, Function.comp_def, name_ofData, find?_dataMembers]

/-- A table holds the generic method of the nearest ancestor that has one of the name. -/
theorem generic?_build (r : Registry) (type : TypeId) (name : String) :
    (build r type).generic? name = (r.ancestors type).findSome? fun owner =>
      (owner.generic? name).map (.ofOpenGeneric owner) := by
  rw [generic?, generics_build, addByName_eq,
    find?_foldl_addByKey_flatMap MemberDescriptor.name (· == name)]
  simp only [find?_map_ofOpenGeneric]

/-- A table holds the field or property of the nearest ancestor that has one of the name. -/
theorem dataMember?_build (r : Registry) (type : TypeId) (name : String) :
    (build r type).dataMember? name = (r.ancestors type).findSome? fun owner =>
      (owner.dataMember? name).map (.ofData owner) := by
  rw [dataMember?, dataMembers_build, addByName_eq,
    find?_foldl_addByKey_flatMap MemberDescriptor.name (· == name)]
  simp only [find?_map_ofData]

theorem exists_of_dataMember?_build {r : Registry} {type : TypeId} {name : String}
    {d : MemberDescriptor} (h : (build r type).dataMember? name = some d) :
    ∃ owner ∈ r.ancestors type, ∃ x, owner.dataMember? name = some x ∧ d = .ofData owner x := by
  rw [dataMember?_build] at h
  obtain ⟨owner, howner, hd⟩ := List.exists_of_findSome?_eq_some h
  obtain ⟨x, hx, rfl⟩ := Option.map_eq_some_iff.1 hd
  exact ⟨owner, howner, x, hx, rfl⟩

/-- Every data member of a table is the one that its name means. -/
theorem dataMember?_of_mem_build {r : Registry} {type : TypeId} {d : MemberDescriptor}
    (h : d ∈ (build r type).dataMembers) : (build r type).dataMember? d.name = some d := by
  rw [dataMembers_build, addByName_eq, mem_foldl_addByKey_iff] at h
  rw [dataMember?, dataMembers_build, addByName_eq,
    find?_foldl_addByKey MemberDescriptor.name (· == d.name), List.find?_nil, Option.none_or, h]

end MemberTable

namespace Registry

/-- The member that a name means is the one in the member table. -/
theorem member_eq (r : Registry) (type : TypeId) (name : String) :
    r.member type name =
      match (MemberTable.build r type).dataMember? name with
      | some d => .ok d
      | none => .error ((MemberTable.build r type).notFound name) := by
  rw [member, nearest, ← MemberTable.dataMember?_build]
  cases (MemberTable.build r type).dataMember? name with
  | some d => rfl
  | none => simp only [notFound, MemberTable.notFound, MemberTable.typeName_build]

variable {r : Registry} {owner : TypeInfo} {m : MethodInfo}

/-- The key of a plain method of a registered type denotes a method of that type, in the same
scope and with the same parameters. -/
theorem resolve?_key_ofMethod (howner : r.find? owner.id = some owner) (hm : m ∈ owner.methods) :
    ∃ found ∈ owner.methods,
      r.resolve? (MemberDescriptor.ofMethod owner m).key = some (.method found) ∧
        (MemberDescriptor.ofMethod owner m).key.matchesMethod found := by
  have hmatch : (MemberDescriptor.ofMethod owner m).key.matchesMethod m := by
    simp [MemberKey.matchesMethod, MemberDescriptor.key, MemberDescriptor.ofMethod,
      MethodInfo.paramKeys]
  have hdeclaring : r.find? (MemberDescriptor.ofMethod owner m).key.declaring = some owner :=
    howner
  have hkind : (MemberDescriptor.ofMethod owner m).key.kind = .method := rfl
  have harity : (MemberDescriptor.ofMethod owner m).key.genericArity = 0 := rfl
  generalize (MemberDescriptor.ofMethod owner m).key = key at hmatch hdeclaring hkind harity ⊢
  cases hfound : owner.methods.find? key.matchesMethod with
  | none => exact absurd hmatch (List.find?_eq_none.1 hfound m hm)
  | some found =>
    refine ⟨found, List.mem_of_find?_eq_some hfound, ?_, List.find?_some hfound⟩
    simp [resolve?, hdeclaring, hkind, resolveMethod?, harity, hfound]

end Registry

end Reflection
