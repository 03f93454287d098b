import Reflection.Access.Binding

/-!
# Invokers and constructors

An invoker runs the body of one method. A call checks the number of arguments, binds the target,
converts the arguments into a frame, runs the body, and writes the slots back whose mode says so.
Only a call that succeeds changes the arguments.
-/

set_option autoImplicit false

namespace Reflection

/-- What a call leaves behind: its result, the arguments and the state. -/
structure Invocation where
  result : Except AccessError (Option Value)
  args : List Value
  store : Store

/-- Runs one method. -/
structure Invoker where
  descriptor : MemberDescriptor
  binding : TargetBinding
  method : MethodInfo

namespace Invoker

/-- The invoker of the method that a descriptor denotes. The type arguments of a generic method
have to be chosen. -/
def compile (r : Registry) (d : MemberDescriptor) : Except AccessError Invoker :=
  if d.isOpenGeneric then .error (.openGenericMethod d.display d.typeParams.length)
  else
    match r.resolve? d.key with
    | some (.method m) => .ok ⟨d, .ofDescriptor r d, m⟩
    | _ => .error d.notFound

/-- The body for a target, and the frame that it starts with. -/
def start (i : Invoker) (target : Option Target) (args : List Value) :
    Except AccessError (MethodBody × Frame i.descriptor.params) :=
  if h : args.length = i.descriptor.params.length then do
    -- The target is bound before any argument is converted.
    let part ← i.binding.bind .write target
    let frame ← Frame.prepare i.descriptor.params args h
    match i.method.body.at? i.method.declaring part with
    | some body => .ok (body, frame)
    | none => .error i.descriptor.unrelated
  else .error (.arityMismatch i.descriptor.display i.descriptor.params.length args.length)

/-- Calls the method. -/
def invoke (i : Invoker) (target : Option Target) (args : List Value) (store : Store) :
    Invocation :=
  match i.start target args with
  | .error e => ⟨.error e, args, store⟩
  | .ok (body, frame) =>
    let out := body.run i.descriptor.params frame store
    match out.result with
    | .error e => ⟨.error e, args, out.store⟩
    | .ok returned => ⟨.ok returned, out.frame.writeBack args, out.store⟩

/-- The invoker with its method, for diagnostics. -/
def debug (i : Invoker) : String :=
  "Invoker(" ++ i.descriptor.display ++ ")"

end Invoker

/-- Makes instances of one type. -/
structure Constructor where
  descriptor : MemberDescriptor
  info : ConstructorInfo

namespace Constructor

/-- The constructor of a type. -/
def compile (r : Registry) (type : TypeId) : Except AccessError Constructor := do
  let d ← r.constructor type
  match r.resolve? d.key with
  | some (.constructor info) => .ok ⟨d, info⟩
  | _ => .error d.notFound

/-- The type whose instances are made. -/
def type (c : Constructor) : TypeId :=
  c.descriptor.declaring

/-- Makes an instance that can be a target. -/
def create (c : Constructor) (store : Store) : Target × Store :=
  let (address, store) := c.info.construct store
  (⟨address, c.type⟩, store)

/-- Makes a shared instance and a reference to it. -/
def createValue (c : Constructor) (store : Store) : Object × Store :=
  let (target, store) := c.create store
  (.ofTarget target, store)

/-- The constructor with its type, for diagnostics. -/
def debug (c : Constructor) : String :=
  "Constructor(" ++ c.descriptor.display ++ ")"

end Constructor

end Reflection
