import Offload.Kernel

/-!
# Schedulers

A scheduler launches one kernel at a time and waits for it. Inside its failure boundary, faults and
panics of the device become errors; before it, resolving the kernel and binding the arguments may
still unwind.
-/

namespace Offload

/-- Launches kernels on a queue. Clones share the counters. -/
structure Scheduler (T : Carriers) where
  queue : Queue T
  order : AxisOrder
  tally : Nat

namespace Tally

def submit (t : Tally) : Tally := { t with submitted := t.submitted + 1 }
def complete (t : Tally) : Tally := { t with completed := t.completed + 1 }
def fail (t : Tally) : Tally := { t with failed := t.failed + 1 }
def reject (t : Tally) : Tally := { t with rejected := t.rejected + 1 }

def inspect (t : Tally) : String :=
  Text.record "SchedulerStats" [("submitted", toString t.submitted),
    ("completed", toString t.completed), ("failed", toString t.failed),
    ("rejected", toString t.rejected)] false

end Tally

/-- Arguments recorded for one launch. -/
structure CommandGroup where
  /-- Buffers that the call keeps until its launch is over. -/
  stored : List Handle := []
  bound : List BoundArgument := []

/-- The references that a group owns. -/
def CommandGroup.held (group : CommandGroup) : List Handle :=
  boundBuffers group.bound ++ group.stored

/-- Records argument `index`, which has to be the next one. -/
def CommandGroup.setArgument (group : CommandGroup) (index : Nat) (x : BoundArgument) :
    Except Panic CommandGroup :=
  if index = group.bound.length then .ok { group with bound := group.bound ++ [x] }
  else .error .argumentOrder

namespace Scheduler

variable {T : Carriers} (b : Backend T)

/-- A scheduler with counters of its own. -/
def make (queue : Queue T) (order : AxisOrder) (m : Machine T) : Scheduler T × Machine T :=
  let (tally, m) := m.openTally
  (⟨queue, order, tally⟩, m)

/-- Submits a launch and waits for it; a submission that is accepted is counted. -/
def submitAndWait (s : Scheduler T) (executable : T.Executable) (shape : LaunchShape)
    (arguments : List BoundArgument) : Action (Machine T) T.Fault Unit := do
  let event ← b.submit s.queue executable shape arguments
  Action.modify (·.updateTally s.tally Tally.submit)
  b.wait event

/-- The failure boundary: faults and panics of the device become errors. -/
def guarded (x : Action (Machine T) T.Fault Unit) : Action (Machine T) Error Unit := fun m =>
  match x m with
  | (.ok (), m) => (.ok (), m)
  | (.fault f, m) => (.fault (b.deviceError f), m)
  | (.unwound p, m) => (.fault (.deviceExecution b.name p.report), m)

/-- Binds one argument after another, the first one having number `index`. A buffer is retained
twice: for the call itself, and for the argument that the device will get. Unwinding, for local
memory, gives back what was retained. -/
def bindAll (group : CommandGroup) (index : Nat) :
    List Argument → Action (Machine T) Error CommandGroup
  | [] => return group
  | a :: rest => fun m =>
    match a.bound? with
    | some x =>
      let own := x.handle?.toList
      let m := (m.retainBuffers own).retainBuffers own
      match { group with stored := group.stored ++ own }.setArgument index x with
      | .ok group => bindAll group (index + 1) rest m
      | .error p => (.unwound p, m.releaseBuffers (own ++ own ++ group.held))
    | none => (.unwound .localArgument, m.releaseBuffers group.held)

/-- Launches a device kernel. The references of the bound arguments are handed to the device; those
that the call has stored are given back once the wait is over. -/
def launch (s : Scheduler T) (k : Kernel T) (range : LaunchRange) (arguments : List Argument) :
    Action (Machine T) Error Unit := do
  let shape ← Action.lift (.ofPanicking (range.shape s.order))
  let executable ← (k.resolve b s.queue.context).mapFault b.deviceError
  let group ← bindAll {} 0 arguments
  (guarded b (s.submitAndWait b executable shape group.bound)).ensuring
    (·.releaseBuffers group.stored)

/-- Launches a kernel and counts how that ended. A kernel meant for the host is turned away. -/
def schedule (s : Scheduler T) (k : Kernel T) (range : LaunchRange) (arguments : List Argument) :
    Action (Machine T) Error Unit := fun m =>
  match k.target with
  | .host =>
    (.fault (.methodNotImplemented "host kernel scheduling"),
      (m.updateTally s.tally Tally.reject).note .debug
        "host kernels are not scheduled on devices" [("kernel", k.name)])
  | .device =>
    match s.launch b k range arguments m with
    | (.ok (), m) => (.ok (), m.updateTally s.tally Tally.complete)
    | (.fault e, m) =>
      (.fault e, (m.updateTally s.tally Tally.fail).note .debug "kernel launch failed"
        [("kernel", k.name), ("error", e.message)])
    | (.unwound p, m) => (.unwound p, m)

def inspect (s : Scheduler T) (m : Machine T) : String :=
  Text.record "KernelScheduler" [("runtime", Text.quoted b.name),
    ("config", Text.record "SchedulerConfig" [("axis_order", s.order.label)] false),
    ("stats", (m.tally s.tally).inspect)] false

end Scheduler

end Offload
