import Offload.Cpu.Backend
import Offload.Cpu.Script
import Offload.Session.Family

/-!
# The CPU family

What sessions have to know about the CPU device.
-/

namespace Offload.Cpu

/-- The CPU device as it is. -/
def family : Session.Family carriers where
  backend _ := backend
  initial := {}
  source := Builtin.source
  programOf := KernelObject.program
  accepted? m queue := some (acceptedBy m queue)
  watch := watch
  unwatch := unwatch
  inspectEvent := "CpuEvent \x7b done: Receiver \x7b .. \x7d \x7d"
  inspectQueue := inspectQueue
  inspectContext := Context.inspect
  inspectOffer context := context.registry.inspect
  inspectProgram := ProgramObject.inspect
  inspectAllocation := Allocation.inspect

/-- The CPU device under a plan of failures. -/
def plannedFamily : Session.Family carriers :=
  { family with backend := fun plan => plan.apply Executable.name backend }

end Offload.Cpu
