import Reflection.Metadata.Frame
import Reflection.Metadata.Kinds
import Reflection.Values.Store

/-!
# Methods

A method has parameters, perhaps a result, and a body: any function of the call frame and the
state. Because the body is a function for every parameter list, it can neither add nor remove
slots.

A generic method is a list of methods, one for each choice of type arguments that is provided.
-/

set_option autoImplicit false

namespace Reflection

/-- What a body leaves behind: its result, the frame and the state. A body that fails may have
changed both. -/
structure Outcome (params : List ParamInfo) where
  result : Except AccessError (Option Value)
  frame : Frame params
  store : Store

/-- The body of a method. A method without result gives no value. -/
structure MethodBody where
  run : (params : List ParamInfo) → Frame params → Store → Outcome params

/-- A method. -/
structure MethodInfo where
  name : String
  visibility : Visibility
  /-- The type that the method is a member of. -/
  declaring : TypeId
  params : List ParamInfo
  /-- The declared type of the result; a method without one gives no value. -/
  returnType : Option TypeRef
  body : Scoped MethodBody

namespace MethodInfo

/-- Whether the method belongs to the type itself. -/
def isStatic (m : MethodInfo) : Bool :=
  m.body.isStatic

/-- What overloads are told apart by. -/
def paramKeys (m : MethodInfo) : List ParamKey :=
  m.params.map ParamInfo.key

/-- Whether the parameters have exactly these types; modes do not count. -/
def hasSignature (m : MethodInfo) (types : List TypeRef) : Bool :=
  m.params.map ParamInfo.type == types

/-- The method with its declaring type and parameters. -/
def display (m : MethodInfo) : String :=
  m.declaring.name.display ++ "::" ++ signature m.name (m.params.map ParamInfo.display)

end MethodInfo

/-- The instance of a generic method for one choice of type arguments. -/
structure GenericInstance where
  typeArgs : List TypeRef
  method : MethodInfo

/-- A generic method with the instances that are provided. -/
structure GenericMethodInfo where
  name : String
  visibility : Visibility
  typeParams : List String
  instances : List GenericInstance

namespace GenericMethodInfo

/-- The number of type parameters. -/
def arity (g : GenericMethodInfo) : Nat :=
  g.typeParams.length

/-- Whether the method belongs to the type itself: the instance that was provided last decides. -/
def isStatic (g : GenericMethodInfo) : Bool :=
  g.instances.getLast?.any fun i => i.method.isStatic

/-- The method for exactly these type arguments. -/
def instanceFor? (g : GenericMethodInfo) (typeArgs : List TypeRef) : Option MethodInfo :=
  (g.instances.find? fun i => i.typeArgs == typeArgs).map GenericInstance.method

end GenericMethodInfo

/-- A constructor without parameters. -/
structure ConstructorInfo where
  visibility : Visibility
  /-- Makes an instance. -/
  construct : Store → Address × Store

end Reflection
