import Reflection.Metadata.TypeInfo

/-!
# Registries

A registry holds at most one description per type. Following the bases from a type gives its
ancestors, the type itself first; the walk ends at a type without base, or at a base that is not
registered.

* `Registry.insert` keeps every description that is there.
* `Registry.ancestor?` is the walk, description by description.
* `Registry.ancestors` lists it, `Registry.isAssignable` asks whether a type is on it, and
  `Registry.upcastPath?` lists the steps to it.

The walk need not end: a type may be described as a base of itself, over one link or several. An
operation that walks the whole chain then never answers (`Registry.Ends`), and a search along it
answers only if it finds something (`Registry.Stops`). The lists below are cut after as many types
as are registered. That cuts no walk that ends, and of any other one it keeps every type that the
walk ever comes to.
-/

set_option autoImplicit false

namespace Reflection

/-- Descriptions of types, one per type. -/
structure Registry where
  entries : List TypeInfo
  /-- Whether the submitted types were registered. -/
  autoRegistered : Bool
  distinct : entries.Pairwise fun a b => a.id ≠ b.id

namespace Registry

/-- The registry without descriptions. -/
def empty : Registry := ⟨[], false, .nil⟩

/-- The number of descriptions. -/
def size (r : Registry) : Nat :=
  r.entries.length

/-- The description of a type. -/
def find? (r : Registry) (type : TypeId) : Option TypeInfo :=
  r.entries.find? fun info => info.id == type

/-- Whether a type has a description. -/
def contains (r : Registry) (type : TypeId) : Bool :=
  (r.find? type).isSome

/-- The name under which messages show a type. -/
def nameOf (r : Registry) (type : TypeId) : ShortName :=
  match r.find? type with
  | some info => info.name
  | none => ⟨"<unregistered>"⟩

theorem id_of_find? {r : Registry} {type : TypeId} {info : TypeInfo}
    (h : r.find? type = some info) : info.id = type := by
  simpa using List.find?_some h

theorem mem_of_find? {r : Registry} {type : TypeId} {info : TypeInfo}
    (h : r.find? type = some info) : info ∈ r.entries :=
  List.mem_of_find?_eq_some h

theorem contains_eq_false_iff {r : Registry} {type : TypeId} :
    r.contains type = false ↔ ∀ info ∈ r.entries, info.id ≠ type := by
  simp [contains, find?]

/-- Adds a description at the end. -/
def add (r : Registry) (info : TypeInfo) (h : r.contains info.id = false) : Registry where
  entries := r.entries ++ [info]
  autoRegistered := r.autoRegistered
  distinct := by
    rw [List.pairwise_append]
    refine ⟨r.distinct, List.pairwise_singleton .., ?_⟩
    intro a ha b hb
    rw [List.mem_singleton.1 hb]
    exact contains_eq_false_iff.1 h a ha

/-- Adds a description unless the type has one. -/
def insert (r : Registry) (info : TypeInfo) : Registry :=
  if h : r.contains info.id = false then r.add info h else r

theorem find?_add (r : Registry) (info : TypeInfo) (h : r.contains info.id = false)
    (type : TypeId) :
    (r.add info h).find? type = if info.id = type then some info else r.find? type := by
  have hfind : (r.add info h).find? type =
      (r.find? type).or ([info].find? fun i => i.id == type) :=
    List.find?_append
  rw [hfind]
  split
  · rename_i heq
    subst heq
    have hnone : r.find? info.id = none := Option.not_isSome_iff_eq_none.1 (by
      simpa [contains] using h)
    simp [hnone]
  · rename_i hne
    simp [hne]

theorem contains_insert (r : Registry) (info : TypeInfo) : (r.insert info).contains info.id := by
  unfold insert
  split
  · simp [contains, find?_add]
  · simpa using ‹¬r.contains info.id = false›

/-- A description that is there stays. -/
theorem find?_insert_of_contains {r : Registry} {type : TypeId} (info : TypeInfo)
    (h : r.contains type) : (r.insert info).find? type = r.find? type := by
  unfold insert
  split
  · rename_i hnew
    rw [find?_add, if_neg]
    rintro rfl
    simp [h] at hnew
  · rfl

/-! ## Hierarchy -/

/-- The description at a position of the walk along the bases, which starts with the one of the type
itself. -/
def ancestor? (r : Registry) : Nat → TypeId → Option TypeInfo
  | 0, type => r.find? type
  | position + 1, type =>
    (r.find? type).bind fun info => info.base.bind fun base => r.ancestor? position base.type

/-- The walk from a type comes to an end. -/
def Ends (r : Registry) (type : TypeId) : Prop :=
  ∃ position, r.ancestor? position type = none

/-- A search on the walk from a type comes to an end: the walk does, or it comes to a description
that the search stops at. -/
def Stops (r : Registry) (type : TypeId) (stop : TypeInfo → Bool) : Prop :=
  ∃ position, ∀ info, r.ancestor? position type = some info → stop info = true

theorem Ends.stops {r : Registry} {type : TypeId} (h : r.Ends type) (stop : TypeInfo → Bool) :
    r.Stops type stop := by
  obtain ⟨position, hend⟩ := h
  refine ⟨position, fun info hinfo => ?_⟩
  rw [hend] at hinfo
  cases hinfo

/-- At most `steps` types of the walk along the bases, the type itself first. -/
def chain (r : Registry) : Nat → TypeId → List TypeInfo
  | 0, _ => []
  | steps + 1, type =>
    match r.find? type with
    | none => []
    | some info =>
      info ::
        match info.base with
        | none => []
        | some base => r.chain steps base.type

/-- The descriptions of a type and its bases, the most derived one first. A walk that does not end
is cut where it can only repeat itself. -/
def ancestors (r : Registry) (type : TypeId) : List TypeInfo :=
  r.chain r.size type

/-- Whether an instance of the first type can stand where the second is expected. -/
def isAssignable (r : Registry) (derived expected : TypeId) : Bool :=
  derived == expected || (r.ancestors derived).any fun info => info.id == expected

/-- The steps along a chain to a type on it. -/
def pathTo? (type : TypeId) : List TypeInfo → Option (List Upcast)
  | [] => none
  | info :: rest =>
    if info.id = type then some []
    else do
      let step ← info.upcast?
      let steps ← pathTo? type rest
      some (step :: steps)

/-- The steps from a registered type to one of its ancestors. -/
def upcastPath? (r : Registry) (derived expected : TypeId) : Option (List Upcast) :=
  pathTo? expected (r.ancestors derived)

end Registry

end Reflection
