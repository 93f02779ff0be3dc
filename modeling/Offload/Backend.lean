import Offload.BuildOptions
import Offload.Machine

/-!
# Backends

What a device family offers. Builds and look-ups depend on their arguments alone; launches run on
the machine, of which they leave the counters of schedulers alone. Each operation may succeed, fail
in its own way, or unwind where its type allows it.
-/

namespace Offload

/-- Why a build failed, and what the compiler wrote about it. -/
structure BuildFailure where
  code : StatusCode
  log? : Option String := none
  deriving DecidableEq, Repr

/-- Operations of a device family. A program or kernel that may be missing is optional. -/
structure Backend (T : Carriers) where
  name : String
  /-- Axis order of native ranges. -/
  axisOrder : AxisOrder
  faultMessage : T.Fault → String
  openContext : T.Request → Action (Machine T) Error T.Context
  deviceOf : T.Context → T.Device
  /-- Whether two values are the same context. -/
  sameContext : T.Context → T.Context → Bool
  /-- The context a program was built in. -/
  programContext : T.Program → T.Context
  allocate : T.Context → Nat → Outcome Error T.Allocation
  /-- Bytes of an allocation. -/
  sizeOf : T.Allocation → Nat
  /-- Replaces the first bytes, from a context. -/
  write : T.Context → T.Allocation → List UInt8 → Outcome Error T.Allocation
  /-- Gives the first bytes to a context. -/
  read : T.Context → T.Allocation → Nat → Outcome Error (List UInt8)
  build : T.Context → T.Device → String → BuildOptions → Logged (Outcome BuildFailure T.Program)
  binary : Option T.Program → Except StatusCode (List UInt8)
  load : T.Context → List UInt8 → BuildOptions → Logged (Outcome StatusCode T.Module)
  createKernel : Option (Handle × T.Program) → String → Except StatusCode T.Kernel
  fastKernel : T.Module → String → Except StatusCode T.Executable
  /-- The launchable form of a kernel in a context. -/
  resolve : Option T.Kernel → T.Context → Action (Machine T) T.Fault T.Executable
  /-- Takes over a reference to each buffer that is bound. -/
  submit : Queue T → T.Executable → LaunchShape → List BoundArgument →
    Action (Machine T) T.Fault T.Event
  wait : T.Event → Action (Machine T) T.Fault Unit
  /-- Waits for everything that a queue was given. -/
  synchronize : Queue T → Action (Machine T) Error Unit
  /-- The counters of schedulers are out of a device's reach. -/
  resolve_keeps : ∀ kernel? context, (resolve kernel? context).Keeps (·.tallies)
  submit_keeps : ∀ queue executable shape arguments,
    (submit queue executable shape arguments).Keeps (·.tallies)
  wait_keeps : ∀ event, (wait event).Keeps (·.tallies)
  synchronize_keeps : ∀ queue, (synchronize queue).Keeps (·.tallies)

namespace Backend

variable {T : Carriers}

/-- A device fault as an error. -/
def deviceError (b : Backend T) (fault : T.Fault) : Error :=
  .deviceExecution b.name (b.faultMessage fault)

end Backend

end Offload
