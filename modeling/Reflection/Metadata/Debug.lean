import Reflection.Metadata.TypeInfo

/-!
# Diagnostic texts of descriptions

Each text names the kind of metadata and lists its data; functions are left out.
-/

set_option autoImplicit false

namespace Reflection

namespace Debug

/-- A record of named items, with dots at the end if some data is left out. -/
def record (name : String) (items : List (String × String)) (complete : Bool) : String :=
  let shown := items.map fun item => item.1 ++ ": " ++ item.2
  let all := if complete then shown else shown ++ [".."]
  name ++ " \x7b " ++ commaSeparated all ++ " \x7d"

/-- A truth value. -/
def bool (b : Bool) : String :=
  if b then "true" else "false"

/-- Texts in brackets. -/
def list (texts : List String) : String :=
  "[" ++ commaSeparated texts ++ "]"

/-- A text that may be missing. -/
def option : Option String → String
  | none => "None"
  | some text => "Some(" ++ text ++ ")"

/-- A declared type. -/
def typeRef (type : TypeRef) : String :=
  "TypeRef(" ++ type.display ++ ")"

/-- The base of a type. -/
def base (b : BaseInfo) : String :=
  "BaseInfo(" ++ b.type.name.display ++ ")"

/-- A constructor. -/
def constructor (c : ConstructorInfo) : String :=
  record "ConstructorInfo" [("visibility", c.visibility.debug)] false

/-- A field. -/
def field (f : FieldInfo) : String :=
  record "FieldInfo" [("name", quoted f.name), ("visibility", f.visibility.debug),
    ("is_static", bool f.isStatic), ("ty", typeRef f.type)] false

/-- A property. -/
def property (p : PropertyInfo) : String :=
  record "PropertyInfo" [("name", quoted p.name), ("visibility", p.visibility.debug),
    ("setter_visibility", option (p.setterVisibility.map Visibility.debug)),
    ("is_static", bool p.isStatic), ("ty", typeRef p.type)] true

/-- A parameter. -/
def param (p : ParamInfo) : String :=
  record "ParamInfo" [("name", quoted p.name), ("ty", typeRef p.type), ("mode", p.mode.debug)]
    true

/-- A method. -/
def method (m : MethodInfo) : String :=
  record "MethodInfo" [("name", quoted m.name), ("visibility", m.visibility.debug),
    ("declaring", m.declaring.name.display), ("is_static", bool m.isStatic),
    ("params", list (m.params.map param)),
    ("return_type", option (m.returnType.map typeRef))] false

/-- A generic method. -/
def generic (g : GenericMethodInfo) : String :=
  record "GenericMethodInfo" [("name", quoted g.name), ("visibility", g.visibility.debug),
    ("is_static", bool g.isStatic), ("type_params", list (g.typeParams.map quoted)),
    ("instances", toString g.instances.length)] true

end Debug

end Reflection
