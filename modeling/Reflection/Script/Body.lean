import Reflection.Metadata.Method

/-!
# Scripted bodies

A script is a method body written as data: a list of statements over the call frame and the cells
of one instance. Statements run in order, the first error ends the run, and a script that falls
off its end gives null.

* `Expr.eval`: what an expression stands for.
* `run`: what statements do.
* `body`: the script as the body of a method with a declared result.
-/

set_option autoImplicit false

namespace Reflection.Script

/-- An expression in a script. -/
inductive Expr where
  | literal (v : Value)
  /-- The shared instance of a name, found when the script runs. -/
  | named (name : String)
  /-- The argument of that index, as it is or converted to a type. -/
  | argument (index : Nat) (type : Option TypeRef)
  /-- A cell of the instance. -/
  | cell (name : String) (type : TypeRef)
  /-- The number of arguments. -/
  | count
  /-- Whether there are no arguments. -/
  | isEmpty
  /-- The name of the type of a value. -/
  | typeName (of : Expr)
  /-- The texts of two values, joined. -/
  | join (first second : Expr)

/-- A statement in a script. -/
inductive Stmt where
  /-- Ends the run with a value. -/
  | ret (e : Expr)
  /-- Ends the run with an error. -/
  | fail (member : String)
  /-- Writes an argument, with the value converted to a type first if one is given. -/
  | set (index : Nat) (type : Option TypeRef) (e : Expr)
  /-- Writes a cell of the instance. -/
  | store (cell : String) (type : TypeRef) (e : Expr)

namespace Expr

/-- A whole number of arguments as a value. -/
def countValue (n : Nat) : Value :=
  match BoundedInt.ofInt? .u64 n with
  | some size => .int size
  | none => .null

/-- The texts of several values, joined. -/
def joinAll : List Expr → Expr
  | [] => literal (.string "")
  | e :: rest => join e (joinAll rest)

/-- The value of an expression, for an instance with cells. -/
def eval {params : List ParamInfo} (owner : Address) (frame : Frame params) (store : Store) :
    Expr → Except AccessError Value
  | literal v => .ok v
  | named name => .ok ((store.named? name).elim .null .object)
  | argument index none => frame.value index
  | argument index (some type) => frame.get type index
  | cell name type => .ok (store.read ⟨owner, name, type⟩)
  | count => .ok (countValue frame.size)
  | isEmpty => .ok (.bool frame.isEmpty)
  | typeName of => do
    let v ← eval owner frame store of
    .ok (.string v.typeName.display)
  | join first second => do
    let a ← eval owner frame store first
    let b ← eval owner frame store second
    .ok (.string (a.display ++ b.display))

end Expr

/-- What statements leave behind. -/
structure Outcome (params : List ParamInfo) where
  result : Except AccessError Value
  frame : Frame params
  store : Store

/-- Converts a value if a type is given. -/
def convertTo (type : Option TypeRef) (v : Value) : Except AccessError Value :=
  match type with
  | none => .ok v
  | some type => type.convert v

/-- Runs statements. -/
def run {params : List ParamInfo} (owner : Address) :
    List Stmt → Frame params → Store → Outcome params
  | [], frame, store => ⟨.ok .null, frame, store⟩
  | .ret e :: _, frame, store => ⟨e.eval owner frame store, frame, store⟩
  | .fail member :: _, frame, store => ⟨.error (.noSetter member), frame, store⟩
  | .set index type e :: rest, frame, store =>
    let written := do
      let v ← e.eval owner frame store
      let w ← convertTo type v
      frame.set index w
    match written with
    | .error fault => ⟨.error fault, frame, store⟩
    | .ok frame => run owner rest frame store
  | .store cell type e :: rest, frame, store =>
    let written := do
      let v ← e.eval owner frame store
      (store.assign ⟨owner, cell, type⟩ v).mapError .valueConversion
    match written with
    | .error fault => ⟨.error fault, frame, store⟩
    | .ok store => run owner rest frame store

/-- The result of a script as the result of a method: converted to the declared type, or dropped
if there is none. -/
def returned (returnType : Option TypeRef) (result : Except AccessError Value) :
    Except AccessError (Option Value) := do
  let v ← result
  match returnType with
  | none => .ok none
  | some type => (type.convert v).map some

/-- The script as a method body that works on the cells of an instance. -/
def body (script : List Stmt) (returnType : Option TypeRef) (owner : Address) : MethodBody where
  run params frame store :=
    let out : Outcome params := Script.run owner script frame store
    ⟨returned returnType out.result, out.frame, out.store⟩

end Reflection.Script
