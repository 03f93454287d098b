import Mathlib.Data.Nat.Digits.Lemmas
import Reflection.Types.IdentityHash

/-!
# Pass-through hashes of bytes and words

A pass-through hash turns its word by one byte before it adds the next one. As long as the byte at
the top is zero nothing comes round to the low end and nothing carries, so the new byte goes below
the others (`IdentityHash.toNat_push_of_lt`). It stays zero while a new hash takes in up to eight
bytes, and the hash is the number that they write (`IdentityHash.toNat_write`). The ninth byte is
the first one that comes round (`IdentityHash.toNat_write_ninth`).

Whatever a hash takes in, it ends as the hash of one list of bytes, those that came last in front
(`IdentityHash.run_empty`). A word of eight bytes starts that list anew.

Main statement: `IdentityHash.agreesAcrossWidths`.
-/

set_option autoImplicit false

namespace Reflection

namespace IdentityHash

/-! ## Numbers written in bytes -/

/-- The number that bytes write, the least significant one first. -/
def numberOf (bytes : List UInt8) : Nat :=
  Nat.ofDigits 256 (bytes.map UInt8.toNat)

theorem numberOf_cons (byte : UInt8) (bytes : List UInt8) :
    numberOf (byte :: bytes) = byte.toNat + 256 * numberOf bytes := by
  rw [numberOf, List.map_cons, Nat.ofDigits_cons, numberOf]

theorem numberOf_lt (bytes : List UInt8) : numberOf bytes < 256 ^ bytes.length := by
  have hdigits : ∀ digit ∈ bytes.map UInt8.toNat, digit < 256 := by
    intro digit hdigit
    obtain ⟨byte, -, rfl⟩ := List.mem_map.1 hdigit
    exact byte.toNat_lt
  simpa [numberOf] using Nat.ofDigits_lt_base_pow_length (by decide) hdigits

theorem numberOf_append_singleton (bytes : List UInt8) (last : UInt8) :
    numberOf (bytes ++ [last]) = numberOf bytes + 256 ^ bytes.length * last.toNat := by
  rw [numberOf, List.map_append, Nat.ofDigits_append, List.length_map, List.map_singleton,
    Nat.ofDigits_singleton, numberOf]

theorem length_littleEndian (width n : Nat) : (littleEndian width n).length = width := by
  induction width generalizing n with
  | zero => rfl
  | succ width ih => rw [littleEndian, List.length_cons, ih]

/-- The lowest bytes of a number write its remainder. -/
theorem numberOf_littleEndian (width n : Nat) :
    numberOf (littleEndian width n) = n % 256 ^ width := by
  induction width generalizing n with
  | zero => rw [pow_zero, Nat.mod_one]; rfl
  | succ width ih =>
    have hsplit : n % 256 ^ (width + 1) = n % 256 + 256 * (n / 256 % 256 ^ width) := by
      rw [pow_succ', Nat.mod_mul]
    rw [littleEndian, numberOf_cons, ih, UInt8.toNat_ofNat', hsplit]

theorem numberOf_littleEndian_of_lt {width n : Nat} (h : n < 256 ^ width) :
    numberOf (littleEndian width n) = n := by
  rw [numberOf_littleEndian, Nat.mod_eq_of_lt h]

/-! ## One byte -/

theorem eq_of_toNat_eq {h k : IdentityHash} (heq : h.word.toNat = k.word.toNat) : h = k :=
  congrArg IdentityHash.mk (UInt64.toNat_inj.1 heq)

theorem toNat_rotateByte (word : UInt64) :
    (rotateByte word).toNat = word.toNat % 2 ^ 56 * 256 + word.toNat / 2 ^ 56 := by
  have htop : word.toNat / 2 ^ 56 < 2 ^ 8 := by
    have := word.toNat_lt
    omega
  have hlow : word.toNat <<< 8 % 2 ^ 64 = (word.toNat % 2 ^ 56) <<< 8 := by
    rw [Nat.shiftLeft_eq, Nat.shiftLeft_eq]
    exact Nat.mul_mod_mul_right (2 ^ 8) word.toNat (2 ^ 56)
  calc (rotateByte word).toNat
      = word.toNat <<< 8 % 2 ^ 64 ||| word.toNat >>> 56 := by
        rw [rotateByte, UInt64.toNat_or, UInt64.toNat_shiftLeft, UInt64.toNat_shiftRight]
        rfl
    _ = (word.toNat % 2 ^ 56) <<< 8 ||| word.toNat / 2 ^ 56 := by
        rw [hlow, Nat.shiftRight_eq_div_pow]
    _ = (word.toNat % 2 ^ 56) <<< 8 + word.toNat / 2 ^ 56 :=
        (Nat.shiftLeft_add_eq_or_of_lt htop _).symm
    _ = word.toNat % 2 ^ 56 * 256 + word.toNat / 2 ^ 56 := by
        rw [Nat.shiftLeft_eq]

/-- A byte is added to the word turned by one byte. -/
theorem toNat_push (byte : UInt8) (h : IdentityHash) :
    (h.push byte).word.toNat =
      (h.word.toNat % 2 ^ 56 * 256 + h.word.toNat / 2 ^ 56 + byte.toNat) % 2 ^ 64 := by
  rw [push, UInt64.toNat_add, toNat_rotateByte, UInt8.toNat_toUInt64]

/-- While the byte at the top is zero, the new byte goes below the others. -/
theorem toNat_push_of_lt (byte : UInt8) {h : IdentityHash} (hroom : h.word.toNat < 2 ^ 56) :
    (h.push byte).word.toNat = byte.toNat + 256 * h.word.toNat := by
  have hbyte := byte.toNat_lt
  rw [toNat_push, Nat.mod_eq_of_lt hroom, Nat.div_eq_of_lt hroom]
  omega

/-! ## Bytes -/

/-- A new hash of up to eight bytes is the number that they write. -/
theorem toNat_write (bytes : List UInt8) (h : bytes.length ≤ 8) :
    (empty.write bytes).word.toNat = numberOf bytes := by
  induction bytes with
  | nil => rfl
  | cons byte bytes ih =>
    have hlength : bytes.length ≤ 7 := Nat.le_of_succ_le_succ h
    have hwrite : (empty.write bytes).word.toNat = numberOf bytes := ih (by omega)
    -- Up to seven bytes leave the top one zero.
    have hroom : (empty.write bytes).word.toNat < 2 ^ 56 :=
      calc (empty.write bytes).word.toNat = numberOf bytes := hwrite
        _ < 256 ^ bytes.length := numberOf_lt bytes
        _ ≤ 256 ^ 7 := Nat.pow_le_pow_right (by decide) hlength
    have hpush : empty.write (byte :: bytes) = (empty.write bytes).push byte := rfl
    rw [hpush, toNat_push_of_lt byte hroom, hwrite, numberOf_cons]

/-- The ninth byte comes round to the low end, where it is added to the first one. -/
theorem toNat_write_ninth (bytes : List UInt8) (last : UInt8) (h : bytes.length = 8) :
    (empty.write (bytes ++ [last])).word.toNat = (numberOf bytes + last.toNat) % 2 ^ 64 := by
  obtain ⟨byte, rest, rfl⟩ := List.exists_cons_of_length_eq_add_one h
  have hlength : rest.length = 7 := by simpa using h
  have hrest : numberOf rest < 2 ^ 56 := by
    have := numberOf_lt rest
    rwa [hlength] at this
  have hwrite : (empty.write (rest ++ [last])).word.toNat =
      numberOf rest + 2 ^ 56 * last.toNat := by
    rw [toNat_write _ (by simp [hlength]), numberOf_append_singleton, hlength]
    rfl
  have hpush : empty.write (byte :: rest ++ [last]) = (empty.write (rest ++ [last])).push byte :=
    rfl
  rw [hpush, toNat_push, hwrite, numberOf_cons]
  omega

-- A carry out of the first byte.
example : (empty.write [255, 0, 0, 0, 0, 0, 0, 0, 1]).word = 256 := by decide

theorem write_append (earlier later : List UInt8) (h : IdentityHash) :
    h.write (later ++ earlier) = (h.write earlier).write later :=
  List.foldr_append

/-! ## Any inputs -/

namespace Input

/-- The bytes of an input, those of a word with the least significant one first. -/
def toBytes : Input → List UInt8
  | .bytes content => content
  | .u8 word => littleEndian 1 word.toNat
  | .u16 word => littleEndian 2 word.toNat
  | .u32 word => littleEndian 4 word.toNat
  | .u64 word => littleEndian 8 word.toNat
  | .i32 word => littleEndian 4 word.toUInt32.toNat
  | .i64 word => littleEndian 8 word.toUInt64.toNat

/-- What counts after an input, given the bytes that counted before it. -/
def onto (i : Input) (before : List UInt8) : List UInt8 :=
  match i with
  | .u64 _ | .i64 _ => i.toBytes
  | _ => i.toBytes ++ before

/-- The unsigned words that a number fits in. -/
inductive IsWordOf (n : Nat) : Input → Prop
  | u8 (h : n < 2 ^ 8) : IsWordOf n (.u8 (.ofNat n))
  | u16 (h : n < 2 ^ 16) : IsWordOf n (.u16 (.ofNat n))
  | u32 (h : n < 2 ^ 32) : IsWordOf n (.u32 (.ofNat n))
  | u64 (h : n < 2 ^ 64) : IsWordOf n (.u64 (.ofNat n))

theorem IsWordOf.length_toBytes_le {n : Nat} {i : Input} (h : i.IsWordOf n) :
    i.toBytes.length ≤ 8 := by
  cases h <;> simp [toBytes, length_littleEndian]

theorem IsWordOf.numberOf_toBytes {n : Nat} {i : Input} (h : i.IsWordOf n) :
    numberOf i.toBytes = n := by
  cases h with
  | u8 h =>
    rw [toBytes, UInt8.toNat_ofNat_of_lt' h]
    exact numberOf_littleEndian_of_lt h
  | u16 h =>
    rw [toBytes, UInt16.toNat_ofNat_of_lt' h]
    exact numberOf_littleEndian_of_lt h
  | u32 h =>
    rw [toBytes, UInt32.toNat_ofNat_of_lt' h]
    exact numberOf_littleEndian_of_lt h
  | u64 h =>
    rw [toBytes, UInt64.toNat_ofNat_of_lt' h]
    exact numberOf_littleEndian_of_lt h

end Input

/-- A word of eight bytes is the hash of its bytes. -/
theorem write_littleEndian (word : UInt64) :
    empty.write (littleEndian 8 word.toNat) = ⟨word⟩ := by
  apply eq_of_toNat_eq
  rw [toNat_write _ (length_littleEndian 8 _).le]
  exact numberOf_littleEndian_of_lt word.toNat_lt

/-- An input makes the hash of some bytes the hash of those that count after it. -/
theorem feed_write (before : List UInt8) (i : Input) :
    (empty.write before).feed i = empty.write (i.onto before) := by
  cases i with
  | u64 word => exact (write_littleEndian word).symm
  | i64 word => exact (write_littleEndian word.toUInt64).symm
  | _ => exact (write_append before _ empty).symm

/-- A new hash of one input is the hash of its bytes. -/
theorem feed_empty (i : Input) : empty.feed i = empty.write i.toBytes := by
  have honto : i.onto [] = i.toBytes := by
    cases i <;> simp [Input.onto]
  rw [← honto]
  exact feed_write [] i

/-- A new hash of an unsigned word is its number. -/
theorem toNat_feed_of_isWordOf {n : Nat} {i : Input} (hi : i.IsWordOf n) :
    (empty.feed i).word.toNat = n := by
  rw [feed_empty, toNat_write _ hi.length_toBytes_le, hi.numberOf_toBytes]

/-- The hash after some inputs. -/
def run (h : IdentityHash) (inputs : List Input) : IdentityHash :=
  inputs.foldl feed h

/-- The bytes that count after some inputs, those that came last in front. -/
def counted (inputs : List Input) : List UInt8 :=
  inputs.foldl (fun before i => i.onto before) []

/-- Any inputs leave the hash of the bytes that count after them. -/
theorem run_empty (inputs : List Input) : empty.run inputs = empty.write (counted inputs) := by
  have hstart : empty.run inputs = inputs.foldl feed (empty.write []) := rfl
  rw [hstart, counted]
  exact List.foldl_hom (fun before => empty.write before) feed_write

/-- If those are at most eight, the hash is the number that they write. -/
theorem toNat_run (inputs : List Input) (h : (counted inputs).length ≤ 8) :
    (empty.run inputs).word.toNat = numberOf (counted inputs) := by
  rw [run_empty, toNat_write _ h]

theorem trace_append (h : IdentityHash) (earlier : List Input) (i : Input) (later : List Input) :
    h.trace (earlier ++ i :: later) = h.trace earlier ++ ((h.run earlier).feed i).trace later := by
  induction earlier generalizing h with
  | nil => rfl
  | cons first earlier ih =>
    rw [List.cons_append, trace, ih, trace, List.cons_append]
    rfl

/-! ## Widths -/

/-- The hash of a number does not depend on how it is taken in. -/
structure AgreesAcrossWidths : Prop where
  /-- Up to eight bytes give the number that they write, the least significant one first. -/
  bytes : ∀ bytes : List UInt8, bytes.length ≤ 8 →
    (empty.feed (.bytes bytes)).word.toNat = Nat.ofDigits 256 (bytes.map UInt8.toNat)
  /-- A number gives itself as a word of every width that it fits in, -/
  word : ∀ (n : Nat) (i : Input), i.IsWordOf n → (empty.feed i).word.toNat = n
  /-- and so the same hash. -/
  same : ∀ (n : Nat) (i j : Input), i.IsWordOf n → j.IsWordOf n → empty.feed i = empty.feed j
  /-- Whatever came before, a word of eight bytes becomes the hash that what follows starts from. -/
  discards : ∀ (h : IdentityHash) (earlier : List Input) (word : UInt64) (later : List Input),
    h.trace (earlier ++ .u64 word :: later) =
      h.trace earlier ++ (IdentityHash.mk word).trace later

/-- Numbers have the same hash in every width. -/
theorem agreesAcrossWidths : AgreesAcrossWidths where
  bytes bytes hlength := by
    rw [feed_empty]
    exact toNat_write bytes hlength
  word _ _ hi := toNat_feed_of_isWordOf hi
  same n i j hi hj := by
    apply eq_of_toNat_eq
    rw [toNat_feed_of_isWordOf hi, toNat_feed_of_isWordOf hj]
  discards h earlier word later := trace_append h earlier (.u64 word) later

/-- Ten in two bytes, as a word of four bytes and as one of eight. -/
theorem agreesAcrossWidths_ten :
    (empty.feed (.bytes [10, 0])).word.toNat = 10 ∧ empty.feed (.u32 10) = empty.feed (.u64 10) :=
  ⟨agreesAcrossWidths.bytes [10, 0] (by decide),
    agreesAcrossWidths.same 10 _ _ (.u32 (by decide)) (.u64 (by decide))⟩

end IdentityHash

end Reflection
