/-!
# Pass-through hashing

The hash of a key that is already well spread, such as the identity of a type, is the key itself.
An `IdentityHash` takes its input as bytes or as words. Bytes count from the last one down, each
of them below the ones before it, so that a word gives the same hash in every width that holds it.
-/

set_option autoImplicit false

namespace Reflection

/-- The state of a pass-through hash: one word. -/
structure IdentityHash where
  word : UInt64
  deriving DecidableEq

namespace IdentityHash

/-- The hash before any input. -/
def empty : IdentityHash := ⟨0⟩

/-- The word turned left by one byte, with what is lost at the top back at the bottom. -/
def rotateByte (word : UInt64) : UInt64 :=
  word <<< 8 ||| word >>> 56

/-- Takes one byte in at the low end. -/
def push (byte : UInt8) (h : IdentityHash) : IdentityHash :=
  ⟨rotateByte h.word + byte.toUInt64⟩

/-- Takes bytes in, the last one first. -/
def write (bytes : List UInt8) (h : IdentityHash) : IdentityHash :=
  bytes.foldr push h

/-- The lowest `width` bytes of a number, the least significant one first. -/
def littleEndian : Nat → Nat → List UInt8
  | 0, _ => []
  | width + 1, n => UInt8.ofNat n :: littleEndian width (n / 256)

/-- What a hash takes in. -/
inductive Input where
  | bytes (bytes : List UInt8)
  | u8 (word : UInt8)
  | u16 (word : UInt16)
  | u32 (word : UInt32)
  | u64 (word : UInt64)
  | i32 (word : Int32)
  | i64 (word : Int64)

/-- Takes an input in. A word of eight bytes replaces everything before it; shorter words count
as their bytes. -/
def feed (h : IdentityHash) : Input → IdentityHash
  | .bytes bytes => h.write bytes
  | .u8 word => h.write (littleEndian 1 word.toNat)
  | .u16 word => h.write (littleEndian 2 word.toNat)
  | .u32 word => h.write (littleEndian 4 word.toNat)
  | .i32 word => h.write (littleEndian 4 word.toUInt32.toNat)
  | .u64 word => ⟨word⟩
  | .i64 word => ⟨word.toUInt64⟩

/-- The hashes before the first input and after each one. -/
def trace (h : IdentityHash) : List Input → List UInt64
  | [] => [h.word]
  | i :: rest => h.word :: (h.feed i).trace rest

end IdentityHash

end Reflection
