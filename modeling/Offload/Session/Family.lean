import Offload.Executor
import Offload.FaultPlan

/-!
# Device families

A backend with what else a session has to know about it.
-/

namespace Offload.Session

structure Family (T : Carriers) where
  /-- The backend, which may be made to fail. -/
  backend : FaultPlan T.Fault → Backend T
  initial : T.State
  /-- Source text that is built where none is given. -/
  source : String
  /-- The program a kernel object belongs to. -/
  programOf : T.Kernel → Handle
  /-- Launches that a queue has accepted, if the family counts them. -/
  accepted? : Machine T → Queue T → Option Nat
  watch : String → Handle → Machine T → Machine T
  unwatch : String → Machine T → Machine T
  inspectEvent : String
  inspectQueue : Machine T → Queue T → String
  inspectContext : T.Context → String
  /-- The kernels that a context offers. -/
  inspectOffer : T.Context → String
  inspectProgram : T.Program → String
  inspectAllocation : T.Allocation → Nat → String

end Offload.Session
