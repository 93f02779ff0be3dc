import Offload.Element

/-!
# Faults of the CPU device

Why the CPU device refuses a launch, or how a kernel failed on it.
-/

namespace Offload.Cpu

inductive Fault where
  /-- The kernel says that it failed. -/
  | kernel (reason : String)
  /-- The kernel unwound. -/
  | panicked (reason : String)
  /-- A buffer that one argument writes is bound to another argument too. -/
  | bufferAliasing (index : Nat)
  | missingArgument (index bound : Nat)
  | argumentKind (index : Nat) (expected : String)
  | argumentType (index : Nat) (expected got : ElementType)
  | readOnly (index : Nat)
  | outOfBounds (index length needed : Nat)
  | invalidKernel
  | queueClosed
  deriving DecidableEq, Repr

namespace Fault

def message : Fault → String
  | .kernel reason => s!"kernel fault: {reason}"
  | .panicked reason => s!"kernel panicked: {reason}"
  | .bufferAliasing index => s!"argument {index} aliases a buffer written by another argument"
  | .missingArgument index bound =>
    s!"kernel expects argument {index}, but only {bound} were bound"
  | .argumentKind index expected => s!"argument {index} is not a {expected}"
  | .argumentType index expected got =>
    s!"argument {index} has type {got.name}, kernel expects {expected.name}"
  | .readOnly index => s!"argument {index} is bound read-only"
  | .outOfBounds index length needed =>
    s!"argument {index} holds {length} elements, launch needs {needed}"
  | .invalidKernel => "invalid kernel object"
  | .queueClosed => "command queue is closed"

end Fault

end Offload.Cpu
