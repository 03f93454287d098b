import Reflection.Types.TypeId

/-!
# Maps keyed by types

A `TypeMap` keeps one entry per type, in the order of first insertion.

* `find?_insert_self`, `find?_insert_of_ne`: what a map holds after an insertion.
* `insertNew` leaves an entry that is there alone.
-/

set_option autoImplicit false

namespace Reflection

/-- A map from types to values. -/
structure TypeMap (α : Type) where
  entries : List (TypeId × α)

namespace TypeMap

variable {α : Type}

/-- The map without entries. -/
def empty : TypeMap α := ⟨[]⟩

/-- The number of entries. -/
def size (map : TypeMap α) : Nat :=
  map.entries.length

/-- The values, in the order of the entries. -/
def values (map : TypeMap α) : List α :=
  map.entries.map Prod.snd

/-- The value of a type. -/
def find? (map : TypeMap α) (type : TypeId) : Option α :=
  map.entries.lookup type

/-- Whether the type has an entry. -/
def contains (map : TypeMap α) (type : TypeId) : Bool :=
  (map.find? type).isSome

/-- The entries with the value of one type changed. -/
def adjust (f : α → α) (type : TypeId) : List (TypeId × α) → List (TypeId × α)
  | [] => []
  | (key, value) :: rest =>
    if type == key then (key, f value) :: rest else (key, value) :: adjust f type rest

/-- Changes the value of a type that has an entry. -/
def modify (map : TypeMap α) (type : TypeId) (f : α → α) : TypeMap α :=
  ⟨adjust f type map.entries⟩

/-- Adds an entry for a type that has none; an entry that is there stays. -/
def insertNew (map : TypeMap α) (type : TypeId) (value : α) : TypeMap α :=
  if map.contains type then map else ⟨map.entries ++ [(type, value)]⟩

/-- Sets the value of a type. -/
def insert (map : TypeMap α) (type : TypeId) (value : α) : TypeMap α :=
  if map.contains type then map.modify type fun _ => value
  else ⟨map.entries ++ [(type, value)]⟩

theorem lookup_adjust_self (f : α → α) (type : TypeId) (entries : List (TypeId × α)) :
    (adjust f type entries).lookup type = (entries.lookup type).map f := by
  induction entries with
  | nil => rfl
  | cons e rest ih =>
    obtain ⟨key, value⟩ := e
    by_cases h : type = key
    · simp [adjust, h]
    · have hb : (type == key) = false := by simpa using h
      simp [adjust, hb, List.lookup_cons, ih]

theorem lookup_adjust_of_ne (f : α → α) {type other : TypeId} (h : other ≠ type)
    (entries : List (TypeId × α)) :
    (adjust f type entries).lookup other = entries.lookup other := by
  induction entries with
  | nil => rfl
  | cons e rest ih =>
    obtain ⟨key, value⟩ := e
    by_cases hk : type = key
    · subst hk
      have hb : (other == type) = false := by simpa using h
      simp [adjust, List.lookup_cons, hb]
    · simp [adjust, hk, List.lookup_cons, ih]

theorem find?_insert_self (map : TypeMap α) (type : TypeId) (value : α) :
    (map.insert type value).find? type = some value := by
  unfold insert
  split
  · rename_i h
    obtain ⟨old, hold⟩ := Option.isSome_iff_exists.1 h
    have hold' : map.entries.lookup type = some old := hold
    simp [find?, modify, lookup_adjust_self, hold']
  · rename_i h
    have hnone : map.entries.lookup type = none :=
      Option.not_isSome_iff_eq_none.1 h
    simp [find?, List.lookup_append, hnone]

theorem find?_insert_of_ne (map : TypeMap α) {type other : TypeId} (h : other ≠ type)
    (value : α) : (map.insert type value).find? other = map.find? other := by
  unfold insert
  split
  · exact lookup_adjust_of_ne _ h map.entries
  · have hb : (other == type) = false := by simpa using h
    simp [find?, List.lookup_append, List.lookup_cons, hb]

theorem insertNew_of_contains {map : TypeMap α} {type : TypeId} (value : α)
    (h : map.contains type) : map.insertNew type value = map :=
  if_pos h

end TypeMap

end Reflection
