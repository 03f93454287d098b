import Mathlib
import Reflection.Proofs.CanonicalValues

/-!
# Integers of different kinds

An integer converts to another kind exactly if that kind holds it, and it stays the same integer
(`TypeRef.coerce_int_eq_ok_iff`). The kinds that a kind widens to are listed one by one; the list is
right because a kind widens to another one exactly if its range is a proper part of the other's
(`IntKind.widensTo_iff_range_ssubset`).

Main statement: `IntKind.convertsExactly`.
-/

set_option autoImplicit false

namespace Reflection

namespace IntKind

/-- The integers that a kind holds. -/
def range (k : IntKind) : Set Int :=
  {n | k.Holds n}

theorem range_eq_Icc (k : IntKind) : k.range = Set.Icc k.least k.greatest :=
  rfl

theorem least_le_greatest (k : IntKind) : k.least ≤ k.greatest := by
  cases k <;> decide

theorem range_subset_iff {a b : IntKind} :
    a.range ⊆ b.range ↔ b.least ≤ a.least ∧ a.greatest ≤ b.greatest := by
  rw [range_eq_Icc, range_eq_Icc]
  exact Set.Icc_subset_Icc_iff a.least_le_greatest

/-- A kind widens to another one exactly if its range is a proper part of the other's. -/
theorem widensTo_iff_range_ssubset (a b : IntKind) :
    (NumKind.int a).widensTo (.int b) = true ↔ a.range ⊂ b.range := by
  rw [ssubset_iff_subset_not_subset, range_subset_iff, range_subset_iff]
  cases a <;> cases b <;> decide

end IntKind

namespace TypeRef

/-- An integer converts to the same integer of the declared kind, behind any layers of null. -/
theorem coerce_int_eq_ok_iff {type : TypeRef} {kind : IntKind}
    (hcore : type.core = number (.int kind)) {n : BoundedInt} {w : Value} :
    type.coerce (.int n) = .ok w ↔
      ∃ m : BoundedInt, m.kind = kind ∧ m.value = n.value ∧ w = .int m := by
  rw [type.coerce_core (by simp), hcore, coerce_number_eq_ok_iff, Value.toNumber?,
    Option.map_eq_some_iff]
  refine exists_congr fun m => ?_
  rw [BoundedInt.ofInt?_eq_some_iff, and_assoc, eq_comm (a := w)]

/-- It converts exactly if the kind holds it. -/
theorem exists_coerce_int_iff {type : TypeRef} {kind : IntKind}
    (hcore : type.core = number (.int kind)) {n : BoundedInt} :
    (∃ w, type.coerce (.int n) = .ok w) ↔ kind.Holds n.value := by
  constructor
  · rintro ⟨w, hw⟩
    obtain ⟨m, rfl, hvalue, -⟩ := (coerce_int_eq_ok_iff hcore).1 hw
    rw [← hvalue]
    exact m.holds
  · intro hholds
    exact ⟨.int ⟨kind, n.value, hholds⟩,
      (coerce_int_eq_ok_iff hcore).2 ⟨⟨kind, n.value, hholds⟩, rfl, rfl, rfl⟩⟩

end TypeRef

namespace IntKind

/-- A kind holds all integers of the kinds that widen to it. -/
theorem holds_of_widensTo {a b : IntKind} (h : (NumKind.int a).widensTo (.int b) = true)
    {n : BoundedInt} (hn : n.kind = a) : b.Holds n.value :=
  ((widensTo_iff_range_ssubset a b).1 h).1 (hn ▸ n.holds)

/-- Conversion from one kind of integers to another, behind any layers of null. -/
structure ConvertsExactly (a b : IntKind) : Prop where
  /-- An integer converts exactly if the other kind holds it, -/
  inRange : ∀ (n : BoundedInt) (type : TypeRef), n.kind = a → type.core = .number (.int b) →
    ((∃ w, type.coerce (.int n) = .ok w) ↔ b.Holds n.value)
  /-- and stays the same integer. -/
  same : ∀ (n : BoundedInt) (type : TypeRef) (w : Value), n.kind = a →
    type.core = .number (.int b) → (type.coerce (.int n) = .ok w ↔
      ∃ m : BoundedInt, m.kind = b ∧ m.value = n.value ∧ w = .int m)
  /-- Widening never fails, and converting back undoes it. -/
  undone : (NumKind.int a).widensTo (.int b) = true →
    ∀ (n : BoundedInt) (wide narrow : TypeRef), n.kind = a → wide.core = .number (.int b) →
      narrow.core = .number (.int a) →
        ∃ w, wide.coerce (.int n) = .ok w ∧ narrow.coerce w = .ok (.int n)
  /-- Widening twice is widening at once. -/
  through : ∀ c : IntKind, (NumKind.int a).widensTo (.int c) = true →
    (NumKind.int c).widensTo (.int b) = true → (NumKind.int a).widensTo (.int b) = true ∧
      ∀ (n : BoundedInt) (middle wide : TypeRef), n.kind = a → middle.core = .number (.int c) →
        wide.core = .number (.int b) →
          ∃ v w, middle.coerce (.int n) = .ok v ∧ wide.coerce v = .ok w ∧
            wide.coerce (.int n) = .ok w
  /-- The kind widens to the other one exactly if its range is a proper part of the other's. -/
  widens_iff : (NumKind.int a).widensTo (.int b) = true ↔ a.range ⊂ b.range

/-- Integers convert exactly, between any two kinds. -/
theorem convertsExactly (a b : IntKind) : a.ConvertsExactly b where
  inRange _ _ _ hcore := TypeRef.exists_coerce_int_iff hcore
  same _ _ _ _ hcore := TypeRef.coerce_int_eq_ok_iff hcore
  undone hwidens n wide narrow hn hwide hnarrow := by
    have hholds : b.Holds n.value := holds_of_widensTo hwidens hn
    refine ⟨.int ⟨b, n.value, hholds⟩, ?_, ?_⟩
    · exact (TypeRef.coerce_int_eq_ok_iff hwide).2 ⟨⟨b, n.value, hholds⟩, rfl, rfl, rfl⟩
    · exact (TypeRef.coerce_int_eq_ok_iff hnarrow).2 ⟨n, hn, rfl, rfl⟩
  through c hfirst hsecond := by
    have hwidens : (NumKind.int a).widensTo (.int b) = true := by
      rw [widensTo_iff_range_ssubset] at hfirst hsecond ⊢
      exact hfirst.trans hsecond
    refine ⟨hwidens, fun n middle wide hn hmiddle hwide => ?_⟩
    -- The ranges lie inside each other, so all three kinds hold the integer.
    have hmid : c.Holds n.value := holds_of_widensTo hfirst hn
    have hholds : b.Holds n.value := holds_of_widensTo hwidens hn
    refine ⟨.int ⟨c, n.value, hmid⟩, .int ⟨b, n.value, hholds⟩, ?_, ?_, ?_⟩
    · exact (TypeRef.coerce_int_eq_ok_iff hmiddle).2 ⟨⟨c, n.value, hmid⟩, rfl, rfl, rfl⟩
    · exact (TypeRef.coerce_int_eq_ok_iff hwide).2 ⟨⟨b, n.value, hholds⟩, rfl, rfl, rfl⟩
    · exact (TypeRef.coerce_int_eq_ok_iff hwide).2 ⟨⟨b, n.value, hholds⟩, rfl, rfl, rfl⟩
  widens_iff := widensTo_iff_range_ssubset a b

end IntKind

end Reflection
