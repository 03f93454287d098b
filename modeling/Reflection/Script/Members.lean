import Reflection.Metadata.TypeInfo
import Reflection.Script.Body

/-!
# Members made of cells and scripts

Fields and properties that are backed by cells, methods that run scripts, and constructors that make
a fresh instance. The cells of a static member belong to the declaring type.
-/

set_option autoImplicit false

namespace Reflection

/-- Something for the cells of each instance, or for those of the type itself. -/
def Scoped.ofCells {α : Type} (declaring : TypeId) (isStatic : Bool) (f : Address → α) :
    Scoped α :=
  if isStatic then .shared (f (.statics declaring)) else .perInstance f

/-- A field that is the cell of its name. -/
def FieldInfo.ofCell (declaring : TypeId) (isStatic : Bool) (name : String)
    (visibility : Visibility) (type : TypeRef) : FieldInfo where
  name := name
  visibility := visibility
  type := type
  cells := .ofCells declaring isStatic fun owner => (⟨owner, name⟩, ⟨owner, name⟩)

/-- A property that reads a cell, and writes it if it has a setter. -/
def PropertyInfo.ofCell (declaring : TypeId) (isStatic : Bool) (name : String)
    (visibility : Visibility) (type : TypeRef) (setter : Option Visibility) (cell : String) :
    PropertyInfo where
  name := name
  visibility := visibility
  type := type
  read := .ofCells declaring isStatic fun owner store => store.read ⟨owner, cell, type⟩
  setter := setter.map fun v =>
    { visibility := v
      write := .ofCells declaring isStatic fun owner value store =>
        store.write ⟨owner, cell, type⟩ value }
  setter_isStatic := by
    cases setter <;> cases isStatic <;> simp [Scoped.ofCells, Scoped.isStatic]

/-- A method that runs a script. -/
def MethodInfo.ofScript (declaring : TypeId) (isStatic : Bool) (name : String)
    (visibility : Visibility) (params : List ParamInfo) (returnType : Option TypeRef)
    (script : List Script.Stmt) : MethodInfo where
  name := name
  visibility := visibility
  declaring := declaring
  params := params
  returnType := returnType
  body := .ofCells declaring isStatic (Script.body script returnType)

/-- A constructor that makes a fresh instance. -/
def ConstructorInfo.fresh (visibility : Visibility) : ConstructorInfo :=
  ⟨visibility, Store.allocate⟩

end Reflection
