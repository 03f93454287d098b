import Reflection.Types.TypeRef
import Reflection.Text.Quoted

/-!
# Parameters

A parameter has a declared type and a mode, which says whether a call reads the argument, writes
it, or both.
-/

set_option autoImplicit false

namespace Reflection

/-- How an argument passes through a call. -/
inductive ParamMode where
  /-- The argument is read. -/
  | value
  /-- The argument is read, and written after the call. -/
  | ref
  /-- The argument is written after the call, and what was there before is ignored. -/
  | out
  deriving DecidableEq

namespace ParamMode

/-- Whether the argument is written after the call. -/
def writesBack : ParamMode → Bool
  | value => false
  | ref | out => true

/-- The mode in front of the type of a parameter. -/
def marker : ParamMode → String
  | value => ""
  | ref => "ref "
  | out => "out "

/-- The name of the mode. -/
def text : ParamMode → String
  | value => "value"
  | ref => "ref"
  | out => "out"

/-- The mode of a name. -/
def ofText? (name : String) : Option ParamMode :=
  [value, ref, out].find? fun m => m.text == name

/-- The mode as the debug texts show it. -/
def debug : ParamMode → String
  | value => "Value"
  | ref => "Ref"
  | out => "Out"

end ParamMode

/-- A parameter of a method. -/
structure ParamInfo where
  name : String
  type : TypeRef
  mode : ParamMode
  deriving DecidableEq

/-- What overloads of one name are told apart by: the type and the mode of each parameter. -/
structure ParamKey where
  type : TypeKey
  mode : ParamMode
  deriving DecidableEq

namespace ParamInfo

/-- The key of the parameter. -/
def key (p : ParamInfo) : ParamKey :=
  ⟨p.type.key, p.mode⟩

/-- The parameter as it stands in a signature. -/
def display (p : ParamInfo) : String :=
  p.mode.marker ++ p.type.display

end ParamInfo

/-- Texts in a list, with a comma between each two. -/
def commaSeparated (texts : List String) : String :=
  ", ".intercalate texts

/-- A name with the texts of its parameters. -/
def signature (name : String) (params : List String) : String :=
  name ++ "(" ++ commaSeparated params ++ ")"

end Reflection
