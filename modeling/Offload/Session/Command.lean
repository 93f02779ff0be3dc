import Offload.BuildRequest
import Offload.Executor
import Offload.FaultPlan

/-!
# Commands of a session

What a session can be told to do with the objects it knows by name, and what it answers.
-/

namespace Offload.Session

/-- An argument, with buffers by name. -/
inductive Item where
  | buffer (name : String) (access : Access)
  | localMemory (type : ElementType) (length : Nat)
  | constant (value : Scalar)

/-- Elements of whatever type a buffer has; there may be none of a type. -/
abbrev Elements : Type := (t : ElementType) → Option (List t.Bits)

/-- A launch of a kernel by the names of what takes part. -/
structure Launch where
  launcher : String
  kernel : String
  range : LaunchRange
  arguments : String

/-- Kinds of things to inspect. -/
inductive Subject where
  | context
  | offer
  | executor
  | cache
  | queue
  | scheduler
  | program
  | handle
  | object
  | kernel
  | arguments
  | buffer
  | memory
  deriving DecidableEq

inductive Command (T : Carriers) where
  | context (id : String) (request : T.Request)
  | executor (id context : String) (order? : Option AxisOrder) (request : BuildRequest)
  /-- A clone of an executor's scheduler, or a new one. -/
  | scheduler (id executor : String) (shared : Bool) (order? : Option AxisOrder)
  | build (id executor name : String) (source? : Option String) (request? : Option BuildRequest)
  | compile (id context : String) (device? : Option T.Device) (name : String)
      (source? : Option String) (options : String ⊕ BuildRequest)
  | kernel (id program name : String) (target : Target) (executor? : Option String)
  | clone (id source : String)
  | native (id : String) (program? : Option String) (name : String)
  | resolve (native? : Option String) (context : String)
  | binary (program? : Option String)
  | zeros (id executor : String) (type : ElementType) (length : Nat)
  | upload (id executor : String) (type : ElementType) (elements : List type.Bits)
  | allocate (id executor : String) (bytes : Nat)
  | view (id buffer : String) (type : ElementType) (length : Nat)
  | write (executor buffer : String) (elements : Elements)
  | read (executor buffer : String)
  | writeBytes (executor buffer : String) (bytes : List UInt8)
  | readBytes (executor buffer : String) (count : Nat)
  | submit (executor native arguments : String) (shape : LaunchShape)
  | references (buffer : String)
  | sameMemory (buffer other : String)
  | watch (id buffer : String)
  | arguments (id : String) (items : List Item)
  | push (id : String) (item : Item)
  | set (id : String) (index : Nat) (item : Item)
  | get (id : String) (index : Nat)
  /-- Launches a kernel, unless the range is none. -/
  | run (launch : Except Error Launch)
  | tally (launcher : String)
  | cache (executor : String) (clear : Bool)
  | synchronize (executor : String)
  | sameContext (context other : String)
  | builtIn (context program : String)
  | plan (plan : FaultPlan T.Fault)
  | inspect (subject : Subject) (id : String)
  | drop (id : String)

/-- What a command gives. -/
inductive Answer (T : Carriers) where
  | done
  /-- The command names what there is not. -/
  | unknown
  | failed (cause : Error)
  | options (cause : OptionsError)
  | code (code : StatusCode)
  | fault (message : String)
  | unwound (panic : Panic)
  | context (context : T.Context)
  | order (order : AxisOrder)
  | program (name : String) (object? : Option T.Program) (module? : Option T.Module)
      (cached? : Option Nat)
  | kernel (kernel : Kernel T)
  | native (kernel : T.Kernel)
  | executable (executable : T.Executable)
  | arguments (arguments : List Argument)
  | buffer (length bytes : Nat)
  | length (count : Nat)
  | elements (type : ElementType) (elements : List type.Bits)
  | bytes (bytes : List UInt8)
  | binary (bytes : List UInt8)
  | submitted (status : Except String String) (trace : List TraceEntry) (accepted? : Option Nat)
  | ran (status : Outcome Error Unit) (trace : List TraceEntry) (tally : Tally)
      (accepted? : Option Nat)
  | tally (tally : Tally) (accepted? : Option Nat)
  | references (count bytes : Nat)
  | truth (holds : Bool)
  | text (text? : Option String)
  | cache (size : Nat)
  | dropped (count : Nat)

end Offload.Session
