import Reflection.Cache.Memo

/-!
# Memos as maps that only grow

`Memo.getOrMake` finds an item, or fails and changes nothing, or adds one item in the next free
slot (`Memo.getOrMake_cases`). Adding an item changes the answer for its own key only
(`Memo.find?_push_self`, `Memo.find?_push_of_ne`), and two keys never share a slot
(`Memo.eq_of_slot_eq`).
-/

set_option autoImplicit false

namespace Reflection

namespace Memo

variable {κ α ε : Type} [DecidableEq κ]

/-- Adds an item in the next free slot. -/
def push (m : Memo κ α) (key : κ) (item : α) : Memo κ α :=
  ⟨m.entries ++ [(key, item)]⟩

omit [DecidableEq κ] in
theorem size_push (m : Memo κ α) (key : κ) (item : α) : (m.push key item).size = m.size + 1 := by
  simp [push, size]

theorem findFrom_append (key : κ) (slot : Nat) (front back : List (κ × α)) :
    findFrom key slot (front ++ back) =
      (findFrom key slot front).or (findFrom key (slot + front.length) back) := by
  induction front generalizing slot with
  | nil => simp [findFrom]
  | cons entry front ih =>
    obtain ⟨other, item⟩ := entry
    by_cases h : key = other
    · simp [findFrom, h]
    · simp only [List.cons_append, findFrom, if_neg h, List.length_cons]
      rw [ih, Nat.add_assoc, Nat.add_comm 1]

/-- What is found under a key stands, with that key, at the position that the slot names. -/
theorem getElem?_of_findFrom {key : κ} {slot : Nat} {entries : List (κ × α)} {s : Stored α}
    (h : findFrom key slot entries = some s) :
    ∃ k, s.slot = slot + k ∧ entries[k]? = some (key, s.item) := by
  induction entries generalizing slot with
  | nil => simp [findFrom] at h
  | cons entry entries ih =>
    obtain ⟨other, item⟩ := entry
    by_cases hk : key = other
    · rw [findFrom, if_pos hk, Option.some.injEq] at h
      subst h hk
      exact ⟨0, rfl, rfl⟩
    · rw [findFrom, if_neg hk] at h
      obtain ⟨k, hslot, hget⟩ := ih h
      exact ⟨k + 1, by omega, by simpa using hget⟩

theorem getElem?_of_find? {m : Memo κ α} {key : κ} {s : Stored α} (h : m.find? key = some s) :
    m.entries[s.slot]? = some (key, s.item) := by
  obtain ⟨k, hslot, hget⟩ := getElem?_of_findFrom h
  rwa [show s.slot = k by omega]

/-- Two keys never share a slot. -/
theorem eq_of_slot_eq {m : Memo κ α} {key other : κ} {s t : Stored α}
    (hs : m.find? key = some s) (ht : m.find? other = some t) (h : s.slot = t.slot) :
    key = other := by
  have hkey := getElem?_of_find? hs
  rw [h, getElem?_of_find? ht, Option.some.injEq, Prod.mk.injEq] at hkey
  exact hkey.1.symm

theorem find?_push (m : Memo κ α) (key other : κ) (item : α) :
    (m.push key item).find? other =
      (m.find? other).or (if other = key then some ⟨m.size, item⟩ else none) := by
  rw [find?, push, findFrom_append, Nat.zero_add]
  rfl

theorem find?_push_self {m : Memo κ α} {key : κ} (item : α) (h : m.find? key = none) :
    (m.push key item).find? key = some ⟨m.size, item⟩ := by
  rw [find?_push, h, if_pos rfl]
  rfl

theorem find?_push_of_ne (m : Memo κ α) {key other : κ} (item : α) (h : other ≠ key) :
    (m.push key item).find? other = m.find? other := by
  rw [find?_push, if_neg h, Option.or_none]

theorem insert_of_find?_eq_none {m : Memo κ α} {key : κ} (item : α) (h : m.find? key = none) :
    m.insert key item = (⟨m.size, item⟩, m.push key item) := by
  simp [insert, h, push]

/-- All that asking a memo can do. -/
theorem getOrMake_cases (m : Memo κ α) (key : κ) (make : Except ε α) :
    (∃ s, m.find? key = some s ∧ m.getOrMake key make = (.ok s, m)) ∨
      (∃ e, m.find? key = none ∧ make = .error e ∧ m.getOrMake key make = (.error e, m)) ∨
      ∃ item, m.find? key = none ∧ make = .ok item ∧
        m.getOrMake key make = (.ok ⟨m.size, item⟩, m.push key item) := by
  cases hfind : m.find? key with
  | some s => exact .inl ⟨s, rfl, getOrMake_of_find? make hfind⟩
  | none =>
    cases make with
    | error e => exact .inr (.inl ⟨e, rfl, rfl, by simp [getOrMake, hfind]⟩)
    | ok item =>
      refine .inr (.inr ⟨item, rfl, rfl, ?_⟩)
      simp [getOrMake, hfind, insert_of_find?_eq_none item hfind]

/-! ## Other names for keys and items -/

section Rename

variable {κ' β : Type} [DecidableEq κ']

/-- The memo with a new name for each key and a new item in each slot. -/
def rename (f : κ → κ') (g : α → β) (m : Memo κ α) : Memo κ' β :=
  ⟨m.entries.map fun entry => (f entry.1, g entry.2)⟩

omit [DecidableEq κ] [DecidableEq κ'] in
theorem size_rename (f : κ → κ') (g : α → β) (m : Memo κ α) : (m.rename f g).size = m.size := by
  simp [rename, size]

omit [DecidableEq κ] [DecidableEq κ'] in
theorem rename_push (f : κ → κ') (g : α → β) (m : Memo κ α) (key : κ) (item : α) :
    (m.push key item).rename f g = (m.rename f g).push (f key) (g item) := by
  simp [rename, push]

variable {f : κ → κ'} (hf : Function.Injective f)

include hf

theorem findFrom_map (g : α → β) (key : κ) (slot : Nat) (entries : List (κ × α)) :
    findFrom (f key) slot (entries.map fun entry => (f entry.1, g entry.2)) =
      (findFrom key slot entries).map (.map g) := by
  induction entries generalizing slot with
  | nil => rfl
  | cons entry entries ih =>
    obtain ⟨other, item⟩ := entry
    by_cases h : key = other
    · simp [findFrom, h, Stored.map]
    · have hne : f key ≠ f other := fun heq => h (hf heq)
      simp only [List.map_cons, findFrom, if_neg h, if_neg hne, ih]

theorem find?_rename (g : α → β) (m : Memo κ α) (key : κ) :
    (m.rename f g).find? (f key) = (m.find? key).map (.map g) :=
  findFrom_map hf g key 0 m.entries

/-- Asking under the new names gives the new items, and changes the memo in the same way. -/
theorem getOrMake_rename (g : α → β) (m : Memo κ α) (key : κ) (make : Except ε α) :
    (m.rename f g).getOrMake (f key) (make.map g) =
      ((m.getOrMake key make).1.map (.map g), (m.getOrMake key make).2.rename f g) := by
  -- The item is there, or it cannot be made, or it is made and pushed.
  rcases m.getOrMake_cases key make with ⟨s, hfind, hget⟩ | ⟨e, hfind, rfl, hget⟩ |
    ⟨item, hfind, rfl, hget⟩
  · rw [hget, getOrMake_of_find? _ (by rw [find?_rename hf, hfind]; rfl)]
    rfl
  · have hnone : (m.rename f g).find? (f key) = none := by rw [find?_rename hf, hfind]; rfl
    rw [hget]
    simp [getOrMake, hnone, Except.map]
  · have hnone : (m.rename f g).find? (f key) = none := by rw [find?_rename hf, hfind]; rfl
    rw [hget, rename_push]
    simp [getOrMake, insert_of_find?_eq_none _ hnone, hnone, Except.map, Stored.map, size_rename]

end Rename

end Memo

end Reflection
