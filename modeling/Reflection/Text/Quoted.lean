import Reflection.Text.Printable

/-!
# Quoted text

Names in diagnostics stand between quotes. A quote or a backslash inside is escaped by a
backslash, the common controls have letters, and every other character without a shape of its own
is written as its code point.
-/

set_option autoImplicit false

namespace Reflection

/-- A character inside quotes. -/
def quotedChar (c : Char) : List Char :=
  match c with
  | '"' => ['\\', '"']
  | '\\' => ['\\', '\\']
  | '\n' => ['\\', 'n']
  | '\r' => ['\\', 'r']
  | '\t' => ['\\', 't']
  | '\x00' => ['\\', '0']
  | c =>
    if isPrintable c then [c]
    else ['\\', 'u', '\x7b'] ++ Nat.toDigits 16 c.toNat ++ ['\x7d']

/-- A text between quotes. -/
def quoted (s : String) : String :=
  String.ofList ('"' :: s.toList.flatMap quotedChar ++ ['"'])

-- A combining accent has no shape of its own, and a filler shows nothing.
example : quoted "e\u0301\n" = "\"e\\u\x7b301\x7d\\n\"" := by decide +kernel

example : quoted "\u115f" = "\"\\u\x7b115f\x7d\"" := by decide +kernel

-- A halfwidth sound mark is a letter.
example : quoted "\uff9e" = "\"\uff9e\"" := by decide +kernel

end Reflection
