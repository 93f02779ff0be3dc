import Offload.DeviceBuffer
import Offload.ProgramCache
import Offload.Scheduler

/-!
# Executors

A queue together with a scheduler on it, a cache of programs built for its device, and the options
that those are built with unless others are given.
-/

namespace Offload

structure Executor (T : Carriers) where
  queue : Queue T
  scheduler : Scheduler T
  cache : ProgramCache T := {}
  options : BuildOptions

namespace Executor

variable {T : Carriers} (b : Backend T)

/-- An executor on a queue; without an axis order it takes that of the backend. -/
def make (queue : Queue T) (order? : Option AxisOrder) (options : BuildOptions) (m : Machine T) :
    Executor T × Machine T :=
  let (scheduler, m) := Scheduler.make queue (order?.getD b.axisOrder) m
  ({ queue, scheduler, options }, m)

/-- A program, from the cache or built for the queue's device. -/
def buildProgram (e : Executor T) (name source : String) (options? : Option BuildOptions) :
    Action (Machine T) Error (Program T × Executor T) := do
  let context := e.queue.context
  let (p, cache) ← e.cache.getOrBuild b context (b.deviceOf context) name source
    (options?.getD e.options)
  return (p, { e with cache })

def inspect (e : Executor T) (m : Machine T) : String :=
  Text.record "ExecutionContext" [("runtime", Text.quoted b.name),
    ("scheduler", e.scheduler.inspect b m), ("factory", e.cache.inspect b)] false

end Executor

end Offload
