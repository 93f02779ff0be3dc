import Offload.Decimal.FloatText
import Offload.Panic
import Offload.Store
import Offload.Text.Quoted

/-!
# Kernel arguments

What a kernel is given: a buffer with the access it needs, work-group local memory, or a constant.
-/

namespace Offload

/-- What a kernel does to a buffer. -/
inductive Access where
  | read
  | write
  | readWrite
  deriving DecidableEq, Repr

namespace Access

def writes : Access → Bool
  | .read => false
  | .write | .readWrite => true

def label : Access → String
  | .read => "Read"
  | .write => "Write"
  | .readWrite => "ReadWrite"

end Access

/-- One argument of a kernel. -/
inductive Argument where
  | buffer (handle : Handle) (type : ElementType) (access : Access)
  | localMemory (type : ElementType) (length : Nat)
  | constant (value : Scalar)
  deriving DecidableEq

/-- An argument as a device gets it. -/
inductive BoundArgument where
  | buffer (handle : Handle) (type : ElementType) (access : Access)
  | scalar (value : Scalar)
  deriving DecidableEq

namespace Argument

/-- Name of the kind of argument. -/
def kind : Argument → String
  | .buffer .. => "PublicBuffer"
  | .localMemory .. => "PrivateBuffer"
  | .constant _ => "PublicConstant"

def type : Argument → ElementType
  | .buffer _ type _ => type
  | .localMemory type _ => type
  | .constant value => value.type

def access? : Argument → Option Access
  | .buffer _ _ access => some access
  | _ => none

def handle? : Argument → Option Handle
  | .buffer handle _ _ => some handle
  | _ => none

/-- The argument as a device gets it; devices take no local memory. -/
def bound? : Argument → Option BoundArgument
  | .buffer handle type access => some (.buffer handle type access)
  | .localMemory .. => none
  | .constant value => some (.scalar value)

def inspect : Argument → String
  | .buffer _ type access =>
    Text.record "Buffer" [("dtype", type.label), ("access", access.label)] true
  | .localMemory type length =>
    Text.record "Local" [("dtype", type.label), ("len", toString length)] false
  | .constant value => s!"Constant({value.inspect})"

end Argument

namespace BoundArgument

def handle? : BoundArgument → Option Handle
  | .buffer handle _ _ => some handle
  | .scalar _ => none

def inspect : BoundArgument → String
  | .buffer _ type access =>
    Text.record "Buffer" [("dtype", type.label), ("access", access.label)] true
  | .scalar value => s!"Scalar({value.inspect})"

end BoundArgument

/-- Buffers of an argument list, one entry for each argument that binds one. -/
def buffersOf (arguments : List Argument) : List Handle :=
  arguments.filterMap (·.handle?)

/-- Buffers of the arguments that a device gets, one entry for each that is one. -/
def boundBuffers (arguments : List BoundArgument) : List Handle :=
  arguments.filterMap (·.handle?)

/-- The list as a device gets it. Local memory unwinds. -/
def bindArguments (arguments : List Argument) : Except Panic (List BoundArgument) :=
  arguments.mapM fun a =>
    match a.bound? with
    | some b => .ok b
    | none => .error .localArgument

end Offload
