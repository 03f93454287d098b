import Reflection.Json.Library
import Reflection.Json.Number
import Reflection.Json.Text
import Reflection.Number.Decimal

/-!
# A library for JSON

`Json.compact` is a library that writes scalars and entries without blanks and reads scalars with
blanks around them. A sequence or a map is handed to the visitor at its opening bracket, whatever
follows.
-/

set_option autoImplicit false

namespace Reflection.Json

/-- A string between quotes. -/
def quote (s : String) : String :=
  String.ofList ('"' :: (escape s.toList ++ ['"']))

/-- Whether the character separates tokens. -/
def isBlank (c : Char) : Bool :=
  c == ' ' || c == '\n' || c == '\t' || c == '\r'

/-- A text without the blanks in front. -/
def skipBlank (cs : List Char) : List Char :=
  cs.dropWhile isBlank

/-- A number that was read, as a datum. -/
def numberDatum? : Number → Option SourceDatum
  | .natural n => (BoundedInt.ofInt? .u64 n).map .int
  | .negative n => (BoundedInt.ofInt? .i64 n).map .int
  | .float x => some (.float x)

/-- The datum at the start of a text, and the rest. -/
def datum? (cs : List Char) : Option (SourceDatum × List Char) :=
  match cs with
  | '[' :: rest => some (.sequence, rest)
  | '\x7b' :: rest => some (.map, rest)
  | 'n' :: 'u' :: 'l' :: 'l' :: rest => some (.unit, rest)
  | 't' :: 'r' :: 'u' :: 'e' :: rest => some (.bool true, rest)
  | 'f' :: 'a' :: 'l' :: 's' :: 'e' :: rest => some (.bool false, rest)
  | '"' :: rest => (unescape rest).map fun r => (.string (String.ofList r.1), r.2)
  | cs => do
    let (n, rest) ← number? cs
    let datum ← numberDatum? n
    some (datum, rest)

namespace Compact

/-- The text of a datum. Floats that are no finite numbers are written as null. -/
def write : SinkDatum → String
  | .unit => "null"
  | .bool b => if b then "true" else "false"
  | .char c => quote c.toString
  | .int n => toString n.value
  | .float x => (x.text? (.json x.kind)).getD "null"
  | .string s => quote s
  | .entry key value => "\x7b" ++ quote key ++ ":" ++ quote value ++ "\x7d"

/-- What the visitor makes of the datum of a text. -/
def read {α : Type} (visit : SourceDatum → Except SourceRefusal α) (text : String) :
    Except ReadError α :=
  match datum? (skipBlank text.toList) with
  | none => .error .malformed
  | some (datum, rest) =>
    match visit datum with
    | .error cause => .error (.refused cause)
    | .ok v => if (skipBlank rest).isEmpty then .ok v else .error .malformed

end Compact

/-- The library that writes and reads in this way. -/
def compact : Library where
  write := Compact.write
  read := Compact.read

-- Only the quote, the backslash and control characters are escaped.
example : (Value.string "a\"/\n").toJson compact = "\"a\\\"/\\n\"" := by decide +kernel

-- A sequence is refused before it is read to its end, a broken scalar is malformed.
example : Value.ofJson compact " [1," = .error (.refused .sequence) := by rfl

example : Value.ofJson compact "tru" = .error .malformed := by rfl

end Reflection.Json
