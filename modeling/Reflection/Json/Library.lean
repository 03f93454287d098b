import Reflection.Json.Grammar

/-!
# Values as data

A value is handed to whatever writes it as one datum (`Value.toDatum`), and it takes whatever datum
a reader finds (`Value.ofDatum`). The library that turns data into JSON texts and back is not part
of the values: it is given (`Json.Library`), and `Json.Library.Lawful` says what is relied on.

* `Value.toJson` writes a value with a library.
* `Value.ofJson` reads one.
-/

set_option autoImplicit false

namespace Reflection

/-- What a value is written as. -/
inductive SinkDatum where
  | unit
  | bool (b : Bool)
  | char (c : Char)
  | int (n : BoundedInt)
  | float (x : BinaryFloat)
  | string (s : String)
  /-- A map with one entry. -/
  | entry (key value : String)

namespace Json

/-- The name under which a reference is written. -/
def objectKey : String := "$object"

/-- Why a text is not read. -/
inductive ReadError where
  | malformed
  /-- The text is read, but its datum is refused. -/
  | refused (cause : SourceRefusal)
  deriving DecidableEq

/-- A library for JSON: it writes data, and it reads a text by handing its datum to a visitor, who
takes it or refuses it. -/
structure Library where
  write : SinkDatum → String
  read : {α : Type} → (SourceDatum → Except SourceRefusal α) → String → Except ReadError α

/-- What is relied on: integers are written in decimal, in strings exactly those characters are
escaped that have to be, and whatever follows the grammar is read as the datum it denotes. Nothing
is said about floats. -/
structure Library.Lawful (lib : Library) : Prop where
  write_unit : lib.write .unit = "null"
  write_bool : ∀ b, lib.write (.bool b) = if b then "true" else "false"
  write_int : ∀ n, lib.write (.int n) = toString n.value
  write_char : ∀ c, lib.write (.char c) = lib.write (.string c.toString)
  write_string : ∀ s, ∃ body, Spells MustEscape body s.toList ∧
    (lib.write (.string s)).toList = '"' :: (body ++ ['"'])
  write_entry : ∀ key value, lib.write (.entry key value) =
    "\x7b" ++ lib.write (.string key) ++ ":" ++ lib.write (.string value) ++ "\x7d"
  /-- What the visitor says to the datum is the answer. -/
  read_scalar : ∀ {α : Type} (visit : SourceDatum → Except SourceRefusal α) (text : String)
    (datum : SourceDatum), Denotes text.toList datum →
      lib.read visit text = (visit datum).mapError .refused
  /-- A visitor may refuse an object. -/
  read_entry : ∀ {α : Type} (visit : SourceDatum → Except SourceRefusal α) (text : String)
    (cause : SourceRefusal), IsEntry text.toList → visit .map = .error cause →
      lib.read visit text = .error (.refused cause)

end Json

namespace Value

/-- What the value is written as. -/
def toDatum : Value → SinkDatum
  | null => .unit
  | bool b => .bool b
  | char c => .char c
  | int n => .int n
  | float x => .float x
  | string s => .string s
  | object o => .entry Json.objectKey o.name.display

/-- The value as JSON. -/
def toJson (lib : Json.Library) (v : Value) : String :=
  lib.write v.toDatum

/-- The value of a JSON text. -/
def ofJson (lib : Json.Library) (text : String) : Except Json.ReadError Value :=
  lib.read ofDatum text

end Value

end Reflection
