import Reflection.Json.Source

/-!
# The grammar of JSON scalars

What a text stands for, as relations over its characters. A scalar is `null`, a boolean, a number
or a string between quotes (`Json.Denotes`); of the numbers only integers of 64 bits are described.

* `Spells`: the inside of a string. A quote, a backslash and the control characters are escaped,
  any other character may be. An escape is a letter or the number of the character in four
  hexadecimal digits; a character past these has an escape of two surrogates.
* `Numeral`: the digits of an integer, without a zero in front.
-/

set_option autoImplicit false

namespace Reflection.Json

/-! ## Strings -/

/-- The value of a hexadecimal digit in either case. -/
def hexValue? (c : Char) : Option Nat :=
  let n := c.toNat
  if 48 ≤ n ∧ n ≤ 57 then some (n - 48)
  else if 65 ≤ n ∧ n ≤ 70 then some (n - 55)
  else if 97 ≤ n ∧ n ≤ 102 then some (n - 87)
  else none

/-- The number that four hexadecimal digits write. -/
def hexUnit? (a b c d : Char) : Option Nat := do
  let a ← hexValue? a
  let b ← hexValue? b
  let c ← hexValue? c
  let d ← hexValue? d
  some (((a * 16 + b) * 16 + c) * 16 + d)

/-- The character that a letter stands for after a backslash. -/
def shortEscape? : Char → Option Char
  | '"' => some '"'
  | '\\' => some '\\'
  | '/' => some '/'
  | 'b' => some '\x08'
  | 'f' => some '\x0c'
  | 'n' => some '\n'
  | 'r' => some '\r'
  | 't' => some '\t'
  | _ => none

/-- The character of two surrogates. -/
def surrogatePair? (high low : Nat) : Option Char :=
  if (0xD800 ≤ high ∧ high ≤ 0xDBFF) ∧ 0xDC00 ≤ low ∧ low ≤ 0xDFFF then
    some (Char.ofNat (0x10000 + (high - 0xD800) * 0x400 + (low - 0xDC00)))
  else none

/-- The character of one unit that is no surrogate. -/
def unitChar? (unit : Nat) : Option Char :=
  if 0xD800 ≤ unit ∧ unit ≤ 0xDFFF then none else some (Char.ofNat unit)

/-- A character that cannot stand in a string as it is. -/
def MustEscape (c : Char) : Prop :=
  c = '"' ∨ c = '\\' ∨ c.toNat < 0x20

instance (c : Char) : Decidable (MustEscape c) :=
  inferInstanceAs (Decidable (c = '"' ∨ c = '\\' ∨ c.toNat < 0x20))

/-- What stands for a character in place of the character itself. -/
inductive EscapeOf : Char → List Char → Prop where
  | letter {c letter : Char} (h : shortEscape? letter = some c) : EscapeOf c ['\\', letter]
  | unit {char a b c d : Char} {unit : Nat} (hunit : hexUnit? a b c d = some unit)
      (hchar : unitChar? unit = some char) : EscapeOf char ['\\', 'u', a, b, c, d]
  | pair {char a b c d e f g h : Char} {high low : Nat} (hhigh : hexUnit? a b c d = some high)
      (hlow : hexUnit? e f g h = some low) (hchar : surrogatePair? high low = some char) :
      EscapeOf char ['\\', 'u', a, b, c, d, '\\', 'u', e, f, g, h]

/-- The inside of a string spells characters, with an escape only for some of them. -/
inductive Spells (escaped : Char → Prop) : List Char → List Char → Prop where
  | nil : Spells escaped [] []
  | plain {c : Char} {body s : List Char} (h : ¬MustEscape c) (hrest : Spells escaped body s) :
      Spells escaped (c :: body) (c :: s)
  | escape {c : Char} {text body s : List Char} (h : escaped c) (htext : EscapeOf c text)
      (hrest : Spells escaped body s) : Spells escaped (text ++ body) (c :: s)

/-- More characters may be escaped. -/
theorem Spells.mono {escaped other : Char → Prop} (h : ∀ c, escaped c → other c)
    {body s : List Char} (hs : Spells escaped body s) : Spells other body s := by
  induction hs with
  | nil => exact .nil
  | plain hplain _ ih => exact .plain hplain ih
  | escape hescaped htext _ ih => exact .escape (h _ hescaped) htext ih

/-! ## Numbers and scalars -/

/-- Digits write an integer. -/
structure Numeral (digits : List Char) (n : Nat) : Prop where
  nonempty : digits ≠ []
  isDigit : ∀ c ∈ digits, c.isDigit
  /-- A zero in front is the only digit. -/
  lead : digits.head? = some '0' → digits = ['0']
  value : Nat.ofDigitChars 10 digits 0 = n

/-- A text stands for a datum. -/
inductive Denotes : List Char → SourceDatum → Prop where
  | null : Denotes ['n', 'u', 'l', 'l'] .unit
  | true : Denotes ['t', 'r', 'u', 'e'] (.bool true)
  | false : Denotes ['f', 'a', 'l', 's', 'e'] (.bool false)
  /-- An integer that is not negative has 64 bits without sign. -/
  | natural {digits : List Char} {n : BoundedInt} {size : Nat} (hkind : n.kind = .u64)
      (hsize : Numeral digits size) (hvalue : n.value = size) : Denotes digits (.int n)
  /-- A negative one has 64 bits with a sign. -/
  | negative {digits : List Char} {n : BoundedInt} {size : Nat} (hkind : n.kind = .i64)
      (hsize : Numeral digits size) (hpos : 0 < size) (hvalue : n.value = -size) :
      Denotes ('-' :: digits) (.int n)
  | string {body s : List Char} (h : Spells (fun _ => True) body s) :
      Denotes ('"' :: (body ++ ['"'])) (.string (String.ofList s))

/-- A text is an object with one entry. -/
inductive IsEntry : List Char → Prop where
  | mk {key value : List Char} {name : String} {datum : SourceDatum}
      (hkey : Denotes key (.string name)) (hvalue : Denotes value datum) :
      IsEntry ('\x7b' :: (key ++ ':' :: (value ++ ['\x7d'])))

end Reflection.Json
