import Reflection.Json.Grammar

/-!
# JSON strings

Inside the quotes of a JSON string a quote, a backslash and the control characters are escaped.
Writing escapes nothing else; reading accepts every escape of the grammar.

* `escape`, `unescape`: writing and reading the inside of a string.
-/

set_option autoImplicit false

namespace Reflection.Json

/-- A hexadecimal digit in lower case. -/
def hexDigit (n : Nat) : Char :=
  if n < 10 then Char.ofNat (48 + n) else Char.ofNat (87 + n)

/-- A character inside a string. -/
def escapeChar (c : Char) : List Char :=
  match c with
  | '"' => ['\\', '"']
  | '\\' => ['\\', '\\']
  | '\x08' => ['\\', 'b']
  | '\x0c' => ['\\', 'f']
  | '\n' => ['\\', 'n']
  | '\r' => ['\\', 'r']
  | '\t' => ['\\', 't']
  | c =>
    if c.toNat < 0x20 then
      ['\\', 'u', '0', '0', hexDigit (c.toNat / 16), hexDigit (c.toNat % 16)]
    else [c]

/-- The inside of a string. -/
def escape (s : List Char) : List Char :=
  s.flatMap escapeChar

/-- A character in front of what is read after it. -/
def prepend? (char : Option Char) (rest : Option (List Char × List Char)) :
    Option (List Char × List Char) := do
  let c ← char
  let (chars, after) ← rest
  some (c :: chars, after)

/-- The characters of a string up to its closing quote, and what follows it. An escaped surrogate
has to be half of a pair, and control characters have to be escaped. -/
def unescape : List Char → Option (List Char × List Char)
  | [] => none
  | '"' :: rest => some ([], rest)
  | '\\' :: 'u' :: a :: b :: c :: d :: rest =>
    match hexUnit? a b c d with
    | none => none
    | some unit =>
      match unitChar? unit, rest with
      | some char, rest => prepend? (some char) (unescape rest)
      | none, '\\' :: 'u' :: e :: f :: g :: h :: rest =>
        prepend? ((hexUnit? e f g h).bind (surrogatePair? unit)) (unescape rest)
      | none, _ => none
  | '\\' :: c :: rest => prepend? (shortEscape? c) (unescape rest)
  | ['\\'] => none
  | c :: rest => if c.toNat < 0x20 then none else prepend? (some c) (unescape rest)

end Reflection.Json
