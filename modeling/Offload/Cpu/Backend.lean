import Offload.Cpu.Invocation

/-!
# The CPU backend

Kernels run on the queue that accepts them; their faults and panics come with the event that the
submission gives.
-/

namespace Offload.Cpu

def openContext (r : ContextRequest) : Action (Machine carriers) Error Context := fun m =>
  let (id, m) := m.number
  (.ok (r.context id), m)

/-- A kernel object is launchable in the context of its program. -/
def resolve (kernel? : Option KernelObject) (context : Context) :
    Action (Machine carriers) Fault Executable := fun m =>
  match kernel? with
  | some k => if k.context.isSame context then (.ok k.executable, m) else (.fault .invalidKernel, m)
  | none => (.fault .invalidKernel, m)

/-- Accepts a launch and runs it. Locks are taken in the order of the handles. The references of the
arguments are given back before the event tells that the launch is over. -/
def submit (queue : Queue carriers) (e : Executable) (shape : LaunchShape)
    (arguments : List BoundArgument) : Action (Machine carriers) Fault (Except Fault Unit) :=
  fun m =>
    let m := { m with state.accepted := m.state.accepted ++ [queue.id] }
    let (r, m) := execute Handle.index e shape arguments m
    (.ok r, m.releaseBuffers (boundBuffers arguments))

def wait (event : Except Fault Unit) : Action (Machine carriers) Fault Unit :=
  Action.lift (.ofExcept event)

/-- A launch is over when it was accepted, so there is nothing left to wait for. -/
def synchronize (_ : Queue carriers) : Action (Machine carriers) Error Unit :=
  return ()

/-- Launches that a queue has accepted. -/
def acceptedBy (m : Machine carriers) (queue : Queue carriers) : Nat :=
  m.state.accepted.count queue.id

def inspectQueue (m : Machine carriers) (queue : Queue carriers) : String :=
  Text.record "CpuQueue" [("device", queue.context.device.inspect),
    ("submitted", toString (acceptedBy m queue))] false

theorem resolve_keeps {γ : Type} {f : Machine carriers → γ} (kernel? : Option KernelObject)
    (context : Context) : (resolve kernel? context).Keeps f := by
  intro m
  unfold resolve
  cases kernel? with
  | none => rfl
  | some k => simp only; split <;> rfl

theorem submit_keeps_tallies (queue : Queue carriers) (e : Executable) (shape : LaunchShape)
    (arguments : List BoundArgument) : (submit queue e shape arguments).Keeps (·.tallies) := by
  intro m
  exact execute_keeps (f := (·.tallies)) (fun _ _ => rfl) (fun _ _ => rfl) _ e shape arguments _

/-- A queue accepts every launch. -/
theorem submit_fst (queue : Queue carriers) (e : Executable) (shape : LaunchShape)
    (arguments : List BoundArgument) (m : Machine carriers) :
    ∃ r, (submit queue e shape arguments m).1 = .ok r :=
  ⟨_, rfl⟩

theorem submit_state (queue : Queue carriers) (e : Executable) (shape : LaunchShape)
    (arguments : List BoundArgument) (m : Machine carriers) :
    (submit queue e shape arguments m).2.state =
      { m.state with accepted := m.state.accepted ++ [queue.id] } :=
  execute_keeps (f := (·.state)) (fun _ _ => rfl) (fun _ _ => rfl) _ e shape arguments _

/-- The CPU device family. -/
def backend : Backend carriers where
  name := "cpu"
  axisOrder := .declared
  faultMessage := Fault.message
  openContext := openContext
  deviceOf := Context.device
  sameContext := Context.isSame
  programContext := ProgramObject.context
  allocate context bytes := .ofExcept (Allocation.make context.capacity bytes)
  sizeOf := Allocation.size
  write _ a data := .ofExcept (a.write data)
  read _ a count := .ofExcept (a.read count)
  build context device source options := build context device source options
  binary := binary
  load context bytes options := { value := .ofExcept (load context bytes options) }
  createKernel := createKernel
  fastKernel := fastKernel
  resolve := resolve
  submit := submit
  wait := wait
  synchronize := synchronize
  resolve_keeps := resolve_keeps
  submit_keeps := submit_keeps_tallies
  wait_keeps _ := .lift _
  synchronize_keeps _ := .pure _

end Offload.Cpu
