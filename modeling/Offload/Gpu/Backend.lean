import Offload.Gpu.Dispatch
import Offload.Gpu.Program

/-!
# The GPU backend

Launches are checked, then handed to the device of the platform, which validates them once more.
What a shader computes is not part of this.
-/

namespace Offload.Gpu

/-- The types of GPU devices. An event keeps the buffers of its submission. -/
abbrev carriers : Carriers where
  Request := Nat
  Context := Context
  Device := Device
  Allocation := Allocation
  Program := ProgramObject
  Kernel := KernelObject
  Module := LoadedModule
  Executable := Executable
  Event := List Handle
  Fault := Fault
  State := Unit

namespace Platform

variable (p : Platform)

/-- Opens the device with an index. -/
def openContext (index : Nat) : Action (Machine carriers) Error Context := fun m =>
  match p.openDevice index with
  | .error e => (.fault e, m)
  | .ok device =>
    let (id, m) := m.number
    (.ok ⟨id, device⟩, m.note .debug "wgpu context created"
      [("device", toString index), ("adapter", device.adapterName)])

/-- The executable of an entry point, for which a pipeline is made unless there is one. -/
def obtain (handle : Handle) (program : ProgramObject) (k : KernelObject) :
    Action (Machine carriers) Fault Executable := fun m =>
  let executable := program.shader.executable k.name k.workgroup
  if program.pipelines.contains k.name then (.ok executable, m)
  else
    let m := m.note .debug "creating wgpu compute pipeline" [("kernel", k.name)]
    match p.createPipeline executable with
    | .error panic => (.unwound panic, m)
    | .ok executable =>
      let programs := m.programs.update handle fun program =>
        { program with pipelines := k.name :: program.pipelines }
      (.ok executable, { m with programs })

/-- A kernel object is launchable in the context of its program. -/
def resolve (kernel? : Option KernelObject) (context : Context) :
    Action (Machine carriers) Fault Executable := fun m =>
  match kernel? with
  | none => (.fault .invalidKernel, m)
  | some k =>
    match m.programs.get? k.program with
    | none => (.fault .invalidKernel, m)
    | some program =>
      if program.context.isSame context then p.obtain k.program program k m
      else (.fault .invalidKernel, m)

end Platform

/-- Scalars of 32 bits can be bound. -/
def isBindable (t : ElementType) : Bool :=
  t == .f32 || t == .i32 || t == .u32

/-- Whether argument `index` suits its binding. -/
def checkArgument (index : Nat) (kind : BindingKind) : BoundArgument → Except Fault Unit
  | .buffer _ _ access =>
    if kind.isWritable && !access.writes then .error (.accessMismatch index) else .ok ()
  | .scalar value =>
    if kind.isWritable then .error (.accessMismatch index)
    else if isBindable value.type then .ok ()
    else .error (.unsupportedScalar index value.type)

/-- Whether the arguments from `index` on suit their bindings. -/
def checkArguments (index : Nat) :
    List (BoundArgument × BindingKind) → Except Fault Unit
  | [] => .ok ()
  | (argument, kind) :: rest => do
    checkArgument index kind argument
    checkArguments (index + 1) rest

/-- Checks a launch, in this order: its size, the number of arguments, each argument. -/
def checkLaunch (limit : Nat) (e : Executable) (shape : LaunchShape)
    (arguments : List BoundArgument) : Outcome Fault Unit := do
  let _ ← dispatchSize e.workgroup shape limit
  if arguments.length ≠ e.bindings.length then
    .fault (.argumentCount e.bindings.length arguments.length)
  else
    .ofExcept (checkArguments 0 (arguments.zip e.bindings))

/-- Submits a launch. The references of the arguments pass to the event if there is one. -/
def Platform.submit (p : Platform) (queue : Queue carriers) (e : Executable) (shape : LaunchShape)
    (arguments : List BoundArgument) : Action (Machine carriers) Fault (List Handle) := fun m =>
  let owned := boundBuffers arguments
  match checkLaunch p.workgroups e shape arguments with
  | .fault fault => (.fault fault, m.releaseBuffers owned)
  | .unwound panic => (.unwound panic, m.releaseBuffers owned)
  | .ok () =>
    if p.takesLaunch queue.context m.buffers e shape arguments then (.ok owned, m)
    else (.unwound .validation, m.releaseBuffers owned)

def wait (event : List Handle) : Action (Machine carriers) Fault Unit :=
  Action.modify (·.releaseBuffers event)

/-- An access of a context to the bytes of a buffer. No bytes are moved between contexts. -/
def access {α : Type} (context : Context) (a : Allocation) (moves : Bool)
    (result : Except Error α) : Outcome Error α :=
  match result with
  | .error e => .fault e
  | .ok value => if moves && !a.owner.isSame context then .unwound .validation else .ok value

/-- A launch that was accepted has nothing left to do. -/
def synchronize (_ : Queue carriers) : Action (Machine carriers) Error Unit :=
  return ()

namespace Platform

variable (p : Platform)

theorem obtain_keeps_tallies (handle : Handle) (program : ProgramObject) (k : KernelObject) :
    (p.obtain handle program k).Keeps (·.tallies) := by
  intro m
  unfold obtain
  simp only
  split
  · rfl
  · split <;> rfl

theorem resolve_keeps_tallies (kernel? : Option KernelObject) (context : Context) :
    (p.resolve kernel? context).Keeps (·.tallies) := by
  intro m
  unfold resolve
  cases kernel? with
  | none => rfl
  | some k =>
      simp only
      split
      · rfl
      · split
        · exact p.obtain_keeps_tallies _ _ _ m
        · rfl

theorem submit_keeps_tallies (queue : Queue carriers) (e : Executable) (shape : LaunchShape)
    (arguments : List BoundArgument) : (p.submit queue e shape arguments).Keeps (·.tallies) := by
  intro m
  unfold submit
  split
  · rfl
  · rfl
  · simp only
    split <;> rfl

/-- The GPU device family. -/
def backend : Backend carriers where
  name := "wgpu"
  axisOrder := .reversed
  faultMessage := Fault.message
  openContext := p.openContext
  deviceOf := Context.device
  sameContext := Context.isSame
  programContext := ProgramObject.context
  allocate context bytes := .ofPanicking (Allocation.make p.bufferSize context bytes)
  sizeOf := Allocation.length
  write context a data := access context a true (a.write data)
  read context a count := access context a (count != 0) (a.read count)
  build := p.build
  binary := binary
  load context bytes _ := { value := p.load context bytes }
  createKernel := createKernel
  fastKernel := fastKernel
  resolve := p.resolve
  submit := p.submit
  wait := wait
  synchronize := synchronize
  resolve_keeps := p.resolve_keeps_tallies
  submit_keeps := p.submit_keeps_tallies
  wait_keeps _ := .modify fun _ => rfl
  synchronize_keeps _ := .pure _

end Platform

end Offload.Gpu
