import Reflection.Proofs.CompactJson

/-!
# Values through JSON

A value that is written as JSON and read back is kept up to its form: a character comes back as
the string of that character, and an integer of any kind as the same integer, of 64 bits and
unsigned unless it is negative (`Value.normal`). Normal values come back as they are, and
references, which are written as objects, never do (`Value.json_round_trip`). Floats are left out.

This holds with every library that keeps to the grammar (`Json.Library.Lawful`): what it writes for
a datum denotes the datum that is read back (`Json.Library.Lawful.denotes_write`).
-/

set_option autoImplicit false

namespace Reflection

-- Powers are computed by the power of the numbers, not by the one of monoids.
attribute [local instance (high)] instPowNat

/-! ## Decimal digits -/

namespace Json

theorem digitChar_ne_zero {n : Nat} (hpos : 0 < n) (hsmall : n < 10) : n.digitChar ≠ '0' := by
  intro hzero
  have hcode : n.digitChar.toNat = 48 + n := Nat.toNat_digitChar_of_lt_ten hsmall
  rw [hzero] at hcode
  exact absurd hcode (Nat.ne_of_lt (Nat.lt_add_of_pos_right hpos))

/-- The digits of a positive integer do not start with a zero. -/
theorem head?_toDigits_ne_zero {n : Nat} (h : 0 < n) : (Nat.toDigits 10 n).head? ≠ some '0' := by
  induction n using Nat.strongRecOn with
  | ind n ih =>
    rw [Nat.toDigits_eq_if (by omega)]
    split
    · rename_i hsmall
      exact fun hzero => digitChar_ne_zero h hsmall (Option.some.inj hzero)
    · rename_i hlarge
      obtain ⟨c, rest, hcons⟩ :=
        List.exists_cons_of_ne_nil (Nat.toDigits_ne_nil (n := n / 10) (b := 10))
      have hfirst := ih (n / 10) (by omega) (by omega)
      rw [hcons] at hfirst ⊢
      exact hfirst

/-- The decimal digits of an integer are a numeral. -/
theorem numeral_toDigits (n : Nat) : Numeral (Nat.toDigits 10 n) n where
  nonempty := Nat.toDigits_ne_nil
  isDigit _ hc := Nat.isDigit_of_mem_toDigits (by omega) (by omega) hc
  lead hzero := by
    rcases Nat.eq_zero_or_pos n with rfl | hpos
    · rfl
    · exact absurd hzero (head?_toDigits_ne_zero hpos)
  value := Nat.ofDigitChars_ten_toDigits

end Json

/-! ## Integers of every kind -/

namespace BoundedInt

/-- The same integer in 64 bits, unsigned unless it is negative. -/
def widest (n : BoundedInt) : BoundedInt where
  kind := if 0 ≤ n.value then .u64 else .i64
  value := n.value
  holds := by
    obtain ⟨hleast, hgreatest⟩ := n.holds.bounds
    split
    · rename_i hnonneg
      exact ⟨hnonneg, hgreatest⟩
    · rename_i hnegative
      exact ⟨hleast, Int.le_trans (Int.le_of_lt (Int.not_le.1 hnegative)) (by decide)⟩

/-- An integer in decimal denotes the same integer in 64 bits. -/
theorem denotes_toString (n : BoundedInt) :
    Json.Denotes (toString n.value).toList (.int n.widest) := by
  rw [Int.toString_eq_repr, Int.repr_eq_if]
  -- The sign that is written decides the kind that is read.
  split
  · rename_i hnonneg
    rw [Nat.toList_repr]
    exact .natural (if_pos hnonneg) (Json.numeral_toDigits _) (Int.toNat_of_nonneg hnonneg).symm
  · rename_i hnegative
    rw [String.toList_append, Nat.toList_repr]
    have hvalue : n.value = -((-n.value).toNat : Int) := by omega
    exact .negative (if_neg hnegative) (Json.numeral_toDigits _) (by omega) hvalue

end BoundedInt

/-! ## What is written and what is read -/

/-- A datum is neither a float nor a map. -/
def SinkDatum.isPlain : SinkDatum → Bool
  | .float _ | .entry _ _ => false
  | _ => true

/-- What a datum comes back as, if it is no float. -/
def SinkDatum.readBack : SinkDatum → SourceDatum
  | .unit => .unit
  | .bool b => .bool b
  | .char c => .string c.toString
  | .int n => .int n.widest
  | .float x => .float x
  | .string s => .string s
  | .entry _ _ => .map

namespace Json.Library.Lawful

variable {lib : Library}

/-- A string denotes itself: escapes that are needed are escapes that may be read. -/
theorem denotes_string (h : lib.Lawful) (s : String) :
    Denotes (lib.write (.string s)).toList (.string s) := by
  obtain ⟨body, hbody, htext⟩ := h.write_string s
  rw [htext, ← String.ofList_toList (s := s)]
  exact .string (hbody.mono fun _ _ => trivial)

/-- What is written for a plain datum denotes the datum that it comes back as. -/
theorem denotes_write (h : lib.Lawful) {datum : SinkDatum} (hplain : datum.isPlain) :
    Denotes (lib.write datum).toList datum.readBack := by
  cases datum with
  | unit =>
    rw [h.write_unit]
    exact .null
  | bool b =>
    rw [h.write_bool]
    cases b with
    | true => exact .true
    | false => exact .false
  | char c =>
    rw [h.write_char]
    exact h.denotes_string c.toString
  | int n =>
    rw [h.write_int]
    exact n.denotes_toString
  | float x => cases hplain
  | string s => exact h.denotes_string s
  | entry key value => cases hplain

/-- What is written for an entry is an object. -/
theorem isEntry_write (h : lib.Lawful) (key value : String) :
    IsEntry (lib.write (.entry key value)).toList := by
  have htext : (lib.write (.entry key value)).toList = '\x7b' ::
      ((lib.write (.string key)).toList ++
        ':' :: ((lib.write (.string value)).toList ++ ['\x7d'])) := by
    rw [h.write_entry]
    simp
  rw [htext]
  exact .mk (h.denotes_string key) (h.denotes_string value)

end Json.Library.Lawful

namespace Value

/-! ## Normal values -/

/-- What a value comes back as from JSON. -/
def normal : Value → Value
  | char c => string c.toString
  | int n => int n.widest
  | v => v

/-- A normal value is its own normal form. -/
theorem normal_normal (v : Value) : v.normal.normal = v.normal := by
  cases v <;> rfl

theorem isPlain_toDatum {v : Value} (hfloat : ∀ x, v ≠ float x) (hobject : ∀ o, v ≠ object o) :
    v.toDatum.isPlain := by
  cases v with
  | float x => exact absurd rfl (hfloat x)
  | object o => exact absurd rfl (hobject o)
  | _ => rfl

theorem isPlain_toDatum_normal (v : Value) : v.normal.toDatum.isPlain = v.toDatum.isPlain := by
  cases v <;> rfl

/-- The value of the datum that comes back is the normal form. -/
theorem ofDatum_readBack {v : Value} (hplain : v.toDatum.isPlain) :
    ofDatum v.toDatum.readBack = .ok v.normal := by
  cases v with
  | object o => cases hplain
  | _ => rfl

variable {lib : Json.Library}

/-- A value comes back as its normal form. -/
theorem ofJson_toJson (h : lib.Lawful) {v : Value} (hplain : v.toDatum.isPlain) :
    ofJson lib (v.toJson lib) = .ok v.normal := by
  have hdenotes : Json.Denotes (v.toJson lib).toList v.toDatum.readBack := h.denotes_write hplain
  rw [ofJson, h.read_scalar ofDatum _ _ hdenotes, ofDatum_readBack hplain]
  rfl

/-- Values other than floats and references come back in their normal form, and from then on as
they are. A reference is never read back. -/
theorem json_round_trip (h : lib.Lawful) :
    (∀ v : Value, (∀ x, v ≠ float x) → (∀ o, v ≠ object o) →
      ofJson lib (v.toJson lib) = .ok v.normal ∧
        ofJson lib (v.normal.toJson lib) = .ok v.normal) ∧
    ∀ o : Object, ofJson lib ((object o).toJson lib) = .error (.refused .map) := by
  constructor
  · intro v hfloat hobject
    have hplain : v.toDatum.isPlain := isPlain_toDatum hfloat hobject
    have hnormal : ofJson lib (v.normal.toJson lib) = .ok v.normal.normal :=
      ofJson_toJson h ((isPlain_toDatum_normal v).trans hplain)
    rw [normal_normal] at hnormal
    exact ⟨ofJson_toJson h hplain, hnormal⟩
  · intro o
    exact h.read_entry ofDatum _ _ (h.isEntry_write Json.objectKey o.name.display) rfl

/-- With the compact library a control character is written by its number, and comes back as a
string. -/
theorem json_round_trip_control :
    Json.compact.Lawful ∧ (∀ x, char '\x1f' ≠ float x) ∧ (∀ o, char '\x1f' ≠ object o) ∧
      ofJson Json.compact ((char '\x1f').toJson Json.compact) = .ok (string "\x1f") ∧
      ofJson Json.compact ((string "\x1f").toJson Json.compact) = .ok (string "\x1f") := by
  have hfloat : ∀ x, char '\x1f' ≠ float x := by simp
  have hobject : ∀ o, char '\x1f' ≠ object o := by simp
  obtain ⟨hfirst, hsecond⟩ := (json_round_trip Json.compact_lawful).1 (char '\x1f') hfloat hobject
  exact ⟨Json.compact_lawful, hfloat, hobject, hfirst, hsecond⟩

end Value

end Reflection
