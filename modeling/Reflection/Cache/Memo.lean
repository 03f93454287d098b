/-!
# Memos

A memo keeps what was made for a key and never replaces or removes it. An item is known by its
slot, its position in the order of insertion, so two answers for one key name the same slot.
-/

set_option autoImplicit false

namespace Reflection

/-- An item of a memo, with its position. -/
structure Stored (α : Type) where
  slot : Nat
  item : α

/-- A function applied to a stored item, which keeps its position. -/
def Stored.map {α β : Type} (f : α → β) (s : Stored α) : Stored β :=
  ⟨s.slot, f s.item⟩

/-- Items by key, in the order of insertion. -/
structure Memo (κ α : Type) where
  entries : List (κ × α)

namespace Memo

variable {κ α ε : Type} [DecidableEq κ]

/-- The memo without items. -/
def empty : Memo κ α := ⟨[]⟩

/-- The number of items. -/
def size (m : Memo κ α) : Nat :=
  m.entries.length

/-- The first item of a key in a list that starts at a given slot. -/
def findFrom (key : κ) : Nat → List (κ × α) → Option (Stored α)
  | _, [] => none
  | slot, (other, item) :: rest =>
    if key = other then some ⟨slot, item⟩ else findFrom key (slot + 1) rest

/-- The item of a key. -/
def find? (m : Memo κ α) (key : κ) : Option (Stored α) :=
  findFrom key 0 m.entries

/-- Adds an item for a key that has none. -/
def insert (m : Memo κ α) (key : κ) (item : α) : Stored α × Memo κ α :=
  match m.find? key with
  | some stored => (stored, m)
  | none => (⟨m.size, item⟩, ⟨m.entries ++ [(key, item)]⟩)

/-- The item of a key, made if there is none; a failure to make it leaves the memo alone. -/
def getOrMake (m : Memo κ α) (key : κ) (make : Except ε α) :
    Except ε (Stored α) × Memo κ α :=
  match m.find? key with
  | some stored => (.ok stored, m)
  | none =>
    match make with
    | .error e => (.error e, m)
    | .ok item =>
      let (stored, m) := m.insert key item
      (.ok stored, m)

theorem getOrMake_of_find? {m : Memo κ α} {key : κ} {stored : Stored α} (make : Except ε α)
    (h : m.find? key = some stored) : m.getOrMake key make = (.ok stored, m) := by
  simp [getOrMake, h]

end Memo

end Reflection
