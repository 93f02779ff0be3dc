import Offload.Session.Objects

/-!
# Steps of a session

One command at a time is carried out on the objects of a session. A panic ends only its own step.
-/

namespace Offload.Session

variable {T : Carriers}

/-- A step that may end early with its answer. -/
abbrev Step (T : Carriers) : Type → Type := ExceptT (Answer T) (StateM (Objects T))

namespace Step

def need {α : Type} (x : Option α) : Step T α :=
  match x with
  | some a => return a
  | none => throw .unknown

/-- The object with a name. -/
def find {α : Type} (table : Objects T → Table α) (id : String) : Step T α := do
  need ((table (← get)).find? id)

/-- The object with a name, if one is given. -/
def findIf {α : Type} (table : Objects T → Table α) (id? : Option String) : Step T (Option α) :=
  id?.mapM (find table)

/-- Runs an action; if it fails, that is the answer. -/
def perform {ε α : Type} (failed : ε → Answer T) (x : Action (Machine T) ε α) : Step T α := do
  let o ← get
  let (r, machine) := x o.machine
  set { o with machine }
  match r with
  | .ok a => return a
  | .fault e => throw (failed e)
  | .unwound p => throw (.unwound p)

def attempt {α : Type} (x : Action (Machine T) Error α) : Step T α := perform .failed x

/-- Runs a change of the machine that gives a value. -/
def onMachine {α : Type} (f : Machine T → α × Machine T) : Step T α := do
  let o ← get
  let (a, machine) := f o.machine
  set { o with machine }
  return a

def options (r : BuildRequest) : Step T BuildOptions :=
  match r.options with
  | .ok o => return o
  | .error e => throw (.options e)

/-- The trace so far, which is then empty. -/
def takeTrace : Step T (List TraceEntry) :=
  onMachine fun m => (m.trace, { m with trace := [] })

/-- The scheduler of an executor, or else one by itself. -/
def launcher (id : String) : Step T (Scheduler T) := do
  let o ← get
  match o.executors.find? id with
  | some e => return e.scheduler
  | none => need (o.schedulers.find? id)

def item : Item → Step T Argument
  | .buffer name access => do
    let b ← find (·.buffers) name
    return b.argument access
  | .localMemory type length => return .localMemory type length
  | .constant value => return .constant value

def programAnswer (p : Program T) (cached? : Option Nat) : Step T (Answer T) := do
  let object? := Program.object? p.handle (← get).machine
  return .program p.name (object?.map (·.2)) p.module? cached?

def sizeOf (b : Backend T) (handle : Handle) : Step T Nat := do
  return ((← get).machine.buffers.get? handle).elim 0 b.sizeOf

def bufferAnswer (b : Backend T) (buffer : DeviceBuffer) : Step T (Answer T) := do
  return .buffer buffer.length (← sizeOf b buffer.handle)

/-- Keeps a new buffer. -/
def keepBuffer (b : Backend T) (id : String) (buffer : DeviceBuffer) : Step T (Answer T) := do
  modify (Objects.putBuffer id buffer)
  bufferAnswer b buffer

/-- The program behind a name, if one is given, with its handle. -/
def objectIf (program? : Option String) : Step T (Option (Handle × T.Program)) := do
  let p? ← findIf (·.programs) program?
  let m := (← get).machine
  return p?.bind fun p => Program.object? p.handle m

def makeNative (f : Family T) (b : Backend T) (id : String) (program? : Option String)
    (name : String) : Step T (Answer T) := do
  match b.createKernel (← objectIf program?) name with
  | .error code => return .code code
  | .ok k =>
    let _ ← onMachine ((Objects.nativeReference f k).clone Machine.programKind)
    modify (Objects.putNative f id k)
    return .native k

/-- Submits a launch without a scheduler. Local memory is left out. A launch that unwinds leaves the
trace for the next one. -/
def submit (f : Family T) (b : Backend T) (executor native arguments : String)
    (shape : LaunchShape) : Step T (Answer T) := do
  let e ← find (·.executors) executor
  let k ← find (·.natives) native
  let a ← find (·.arguments) arguments
  let launch : Action (Machine T) T.Fault Unit := do
    let executable ← b.resolve (some k) e.queue.context
    let bound := a.filterMap (·.bound?)
    Action.modify (·.retainBuffers (boundBuffers bound))
    b.wait (← b.submit e.queue executable shape bound)
  let status ← match ← onMachine launch with
    | .ok () => pure (.ok f.inspectEvent)
    | .fault e => pure (.error (b.faultMessage e))
    | .unwound p => throw (.unwound p)
  let trace ← takeTrace
  return .submitted status trace (f.accepted? (← get).machine e.queue)

/-- Launches a kernel over a range. -/
def launch (f : Family T) (b : Backend T) (l : Launch) : Step T (Answer T) := do
  let s ← launcher l.launcher
  let k ← find (·.kernels) l.kernel
  let a ← find (·.arguments) l.arguments
  let status ← onMachine (s.schedule b k l.range a)
  let trace ← takeTrace
  let m := (← get).machine
  return .ran status trace (m.tally s.tally) (f.accepted? m s.queue)

/-- Copies the program, kernel, argument list or buffer with a name. -/
def clone (b : Backend T) (id source : String) : Step T (Answer T) := do
  let o ← get
  if let some p := o.programs.find? source then
    let p ← onMachine p.clone
    modify (Objects.putProgram id p)
    programAnswer p none
  else if let some k := o.kernels.find? source then
    let k ← onMachine k.clone
    modify (Objects.putKernel id k)
    return .kernel k
  else if let some a := o.arguments.find? source then
    modify (Objects.onMachine (·.retainBuffers (buffersOf a)))
    modify (Objects.putArguments id a)
    return .arguments a
  else if let some buffer := o.buffers.find? source then
    let buffer ← onMachine buffer.clone
    let _ ← keepBuffer b id buffer
    return .length buffer.length
  else
    throw .unknown

def inspect (f : Family T) (b : Backend T) (subject : Subject) (id : String) : Step T String := do
  let m := (← get).machine
  match subject with
  | .context => f.inspectContext <$> find (·.contexts) id
  | .offer => f.inspectOffer <$> find (·.contexts) id
  | .executor => (·.inspect b m) <$> find (·.executors) id
  | .cache => (·.cache.inspect b) <$> find (·.executors) id
  | .queue => (fun e => f.inspectQueue m e.queue) <$> find (·.executors) id
  | .scheduler => (·.inspect b m) <$> find (·.schedulers) id
  | .program => (·.inspect b) <$> find (·.programs) id
  | .handle => (·.handle.inspect (Machine.programKind (T := T))) <$> find (·.programs) id
  | .object => do
    let p ← find (·.programs) id
    match Program.object? p.handle m with
    | some (_, object) => return s!"Some({f.inspectProgram object})"
    | none => return "None"
  | .kernel => (·.inspect) <$> find (·.kernels) id
  | .arguments => (fun a => Text.listing (a.map Argument.inspect)) <$> find (·.arguments) id
  | .buffer => (·.inspect b) <$> find (·.buffers) id
  | .memory => do
    let buffer ← find (·.buffers) id
    let a ← need (m.buffers.get? buffer.handle)
    return f.inspectAllocation a (m.buffers.refs buffer.handle)

/-- Carries out a command. -/
def carryOut (f : Family T) (b : Backend T) : Command T → Step T (Answer T)
  | .context id request => do
    let c ← attempt (b.openContext request)
    modify fun o => { o with contexts := o.contexts.put id c }
    return .context c
  | .executor id context order? request => do
    let c ← find (·.contexts) context
    let options ← options request
    let queue ← onMachine (·.openQueue c)
    let e ← onMachine (Executor.make b queue order? options)
    modify (Objects.putExecutor id e)
    return .order e.scheduler.order
  | .scheduler id executor shared order? => do
    let e ← find (·.executors) executor
    let s ←
      if shared then pure e.scheduler
      else onMachine (Scheduler.make e.queue (order?.getD b.axisOrder))
    modify fun o => { o with schedulers := o.schedulers.put id s }
    return .order s.order
  | .build id executor name source? request? => do
    let e ← find (·.executors) executor
    let options? ← request?.mapM options
    let (p, e) ← attempt (e.buildProgram b name (source?.getD f.source) options?)
    modify fun o => { o with executors := o.executors.put executor e }
    modify (Objects.putProgram id p)
    programAnswer p (some e.cache.size)
  | .compile id context device? name source? given => do
    let c ← find (·.contexts) context
    let device := device?.getD (b.deviceOf c)
    let source := source?.getD f.source
    let p ← match given with
      | .inl text => attempt (Program.compileText b c device name source text)
      | .inr request => do attempt (Program.compile b c device name source (← options request))
    modify (Objects.putProgram id p)
    programAnswer p none
  | .kernel id program name target executor? => do
    let p ← find (·.programs) program
    let _ ← findIf (·.executors) executor?
    let k ← attempt (Kernel.make b target p name)
    modify (Objects.putKernel id k)
    return .kernel k
  | .clone id source => clone b id source
  | .native id program? name => makeNative f b id program? name
  | .resolve native? context => do
    let c ← find (·.contexts) context
    let kernel? := native?.bind (← get).natives.find?
    return .executable (← perform (.fault ∘ b.faultMessage) (b.resolve kernel? c))
  | .binary program? => do
    match b.binary ((← objectIf program?).map (·.2)) with
    | .ok bytes => return .binary bytes
    | .error code => return .code code
  | .zeros id executor type length => do
    let e ← find (·.executors) executor
    keepBuffer b id (← attempt (DeviceBuffer.zeros b e.queue.context type length))
  | .upload id executor type elements => do
    let e ← find (·.executors) executor
    keepBuffer b id (← attempt (DeviceBuffer.ofElements b e.queue.context type elements))
  | .allocate id executor bytes => do
    let e ← find (·.executors) executor
    let handle ← attempt (DeviceBuffer.allocate b e.queue.context bytes)
    keepBuffer b id (← attempt (DeviceBuffer.ofHandle b handle .u32 (bytes / 4)))
  | .view id buffer type length => do
    let buffer ← find (·.buffers) buffer
    keepBuffer b id (← attempt (buffer.view b type length))
  | .write executor buffer elements => do
    let e ← find (·.executors) executor
    let buffer ← find (·.buffers) buffer
    attempt (buffer.write b e.queue.context (← need (elements buffer.type)))
    return .done
  | .read executor buffer => do
    let e ← find (·.executors) executor
    let buffer ← find (·.buffers) buffer
    return .elements buffer.type (← attempt (buffer.toElements b e.queue.context))
  | .writeBytes executor buffer bytes => do
    let e ← find (·.executors) executor
    let buffer ← find (·.buffers) buffer
    attempt (DeviceBuffer.writeBytes b e.queue.context buffer.handle bytes)
    return .done
  | .readBytes executor buffer count => do
    let e ← find (·.executors) executor
    let buffer ← find (·.buffers) buffer
    return .bytes (← attempt (DeviceBuffer.readBytes b e.queue.context buffer.handle count))
  | .submit executor native arguments shape => submit f b executor native arguments shape
  | .references buffer => do
    let buffer ← find (·.buffers) buffer
    return .references ((← get).machine.buffers.refs buffer.handle) (← sizeOf b buffer.handle)
  | .sameMemory buffer other => do
    let x ← find (·.buffers) buffer
    let y ← find (·.buffers) other
    return .truth (x.handle = y.handle)
  | .watch id buffer => do
    let buffer ← find (·.buffers) buffer
    modify (Objects.onMachine (f.watch id buffer.handle))
    modify fun o => { o with watches := o.watches.put id () }
    return .done
  | .arguments id items => do
    let a ← items.mapM item
    modify (Objects.onMachine (·.retainBuffers (buffersOf a)))
    modify (Objects.putArguments id a)
    return .arguments a
  | .push id one => do
    let x ← item one
    let a := ((← get).arguments.find? id).getD [] ++ [x]
    modify (Objects.onMachine (·.retainBuffers (buffersOf [x])))
    modify fun o => { o with arguments := o.arguments.put id a }
    return .arguments a
  | .set id index one => do
    let a ← find (·.arguments) id
    let x ← item one
    match a[index]? with
    | none => throw (.unwound (.indexOutOfBounds a.length index))
    | some old => do
      modify (Objects.onMachine (·.retainBuffers (buffersOf [x])))
      modify fun o => { o with arguments := o.arguments.put id (a.set index x) }
      modify (Objects.onMachine (Objects.dropArguments [old]))
      return .arguments (a.set index x)
  | .get id index => do
    let a ← find (·.arguments) id
    return .text (a[index]?.map Argument.inspect)
  | .run (.error e) => return .failed e
  | .run (.ok l) => launch f b l
  | .tally id => do
    let s ← launcher id
    let m := (← get).machine
    return .tally (m.tally s.tally) (f.accepted? m s.queue)
  | .cache executor clear => do
    let e ← find (·.executors) executor
    let cache ← if clear then onMachine e.cache.clear else pure e.cache
    modify fun o => { o with executors := o.executors.put executor { e with cache } }
    return .cache cache.size
  | .synchronize executor => do
    let e ← find (·.executors) executor
    attempt (b.synchronize e.queue)
    return .done
  | .sameContext context other => do
    let c ← find (·.contexts) context
    let d ← find (·.contexts) other
    return .truth (b.sameContext c d)
  | .builtIn context program => do
    let c ← find (·.contexts) context
    let (_, object) ← need (← objectIf (some program))
    return .truth (b.sameContext (b.programContext object) c)
  | .plan plan => do
    modify fun o => { o with plan }
    return .done
  | .inspect subject id => return .text (some (← inspect f b subject id))
  | .drop id => do
    let count := (← get).countNamed id
    modify (Objects.dropNamed f id)
    return .dropped count

end Step

/-- The answer to a command, the log since the last one, and the objects after it. -/
def step (f : Family T) (o : Objects T) (c : Command T) :
    Answer T × List LogEvent × Objects T :=
  let r : Except (Answer T) (Answer T) × Objects T :=
    (Step.carryOut f (f.backend o.plan) c).run o
  let answer := match r.1 with
    | .ok answer => answer
    | .error answer => answer
  (answer, r.2.machine.log, r.2.onMachine fun m => { m with log := [] })

/-- A session before its first command. -/
def start (f : Family T) : Objects T := { machine := { state := f.initial } }

end Offload.Session
