import Offload.Proofs.Containment

/-!
# What a call asks of its device

A backend that writes down what launches ask of it, and otherwise does what the backend underneath
does. Its record tells how often a call submits, with what, and what comes before that.
-/

namespace Offload

/-- What a launch can ask of a device. -/
inductive DeviceCall (T : Carriers) where
  | resolve (kernel? : Option T.Kernel) (context : T.Context)
  | submit (queue : Queue T) (executable : T.Executable) (shape : LaunchShape)
      (arguments : List BoundArgument)
  | wait (event : T.Event)

/-- The types of `T`, with a record beside the state. -/
abbrev Carriers.recorded (T : Carriers) : Carriers :=
  { T with State := T.State × List (DeviceCall T) }

/-! ## Records -/

section Records

variable {T : Carriers}

def Machine.withCalls (m : Machine T) (calls : List (DeviceCall T)) : Machine T.recorded where
  buffers := m.buffers
  programs := m.programs
  tallies := m.tallies
  state := (m.state, calls)
  serial := m.serial
  log := m.log
  trace := m.trace

def Machine.calls (m : Machine T.recorded) : List (DeviceCall T) := m.state.2

/-- The machine without its record. -/
def Machine.plain (m : Machine T.recorded) : Machine T where
  buffers := m.buffers
  programs := m.programs
  tallies := m.tallies
  state := m.state.1
  serial := m.serial
  log := m.log
  trace := m.trace

def Queue.recorded (q : Queue T) : Queue T.recorded := ⟨q.id, q.context⟩

def Queue.plain (q : Queue T.recorded) : Queue T := ⟨q.id, q.context⟩

def KernelEntry.recorded : KernelEntry T → KernelEntry T.recorded
  | .loaded executable => .loaded executable
  | .object kernel => .object kernel

def Kernel.recorded (k : Kernel T) : Kernel T.recorded :=
  ⟨k.name, k.target, ⟨k.program.name, k.program.handle, k.program.module?⟩, k.entry.recorded⟩

def Scheduler.recorded (s : Scheduler T) : Scheduler T.recorded :=
  ⟨s.queue.recorded, s.order, s.tally⟩

/-- Does what `x` does, and adds to the record. -/
def Action.recording {ε α : Type} (x : Action (Machine T) ε α) (calls : List (DeviceCall T)) :
    Action (Machine T.recorded) ε α := fun m =>
  ((x m.plain).1, (x m.plain).2.withCalls (m.calls ++ calls))

theorem Action.Keeps.recording {ε α : Type} {x : Action (Machine T) ε α}
    (hx : x.Keeps (·.tallies)) (calls : List (DeviceCall T)) :
    (x.recording calls).Keeps (·.tallies) :=
  fun m => hx m.plain

/-- The backend `b`, with a record of what launches ask of it. -/
def Backend.recorded (b : Backend T) : Backend T.recorded where
  name := b.name
  axisOrder := b.axisOrder
  faultMessage := b.faultMessage
  openContext request := (b.openContext request).recording []
  deviceOf := b.deviceOf
  sameContext := b.sameContext
  programContext := b.programContext
  allocate := b.allocate
  sizeOf := b.sizeOf
  write := b.write
  read := b.read
  build := b.build
  binary := b.binary
  load := b.load
  createKernel := b.createKernel
  fastKernel := b.fastKernel
  resolve kernel? context :=
    (b.resolve kernel? context).recording [.resolve kernel? context]
  submit queue executable shape arguments :=
    (b.submit queue.plain executable shape arguments).recording
      [.submit queue.plain executable shape arguments]
  wait event := (b.wait event).recording [.wait event]
  synchronize queue := (b.synchronize queue.plain).recording []
  resolve_keeps kernel? context := (b.resolve_keeps kernel? context).recording _
  submit_keeps queue executable shape arguments :=
    (b.submit_keeps queue.plain executable shape arguments).recording _
  wait_keeps event := (b.wait_keeps event).recording _
  synchronize_keeps queue := (b.synchronize_keeps queue.plain).recording _

end Records

/-! ## Recorded launches -/

section Launches

variable {T : Carriers} {b : Backend T} {s : Scheduler T} {k : Kernel T} {range : LaunchRange}
  {arguments : List Argument} {m : Machine T} {calls : List (DeviceCall T)}

/-- What the resolving of a kernel asks. A kernel from a module is there already. -/
def Kernel.asks (k : Kernel T) (context : T.Context) : List (DeviceCall T) :=
  match k.entry with
  | .loaded _ => []
  | .object kernel => [.resolve (some kernel) context]

theorem Kernel.resolve_recorded (context : T.Context) :
    k.recorded.resolve b.recorded context (m.withCalls calls) =
      ((k.resolve b context m).1,
        (k.resolve b context m).2.withCalls (calls ++ k.asks context)) := by
  obtain ⟨name, target, program, entry⟩ := k
  cases entry with
  | loaded executable =>
      simp only [asks, List.append_nil]
      rfl
  | object kernel => rfl

/-- An event is waited for once. -/
def DeviceCall.waits : Outcome T.Fault T.Event → List (DeviceCall T)
  | .ok event => [.wait event]
  | .fault _ | .unwound _ => []

theorem Backend.settled_recorded (b : Backend T) (r : Outcome T.Fault Unit) :
    b.recorded.settled r = b.settled r := by
  cases r <;> rfl

namespace Scheduler

theorem submitAndWait_recorded (executable : T.Executable) (shape : LaunchShape)
    (bound : List BoundArgument) (m : Machine T) (calls : List (DeviceCall T)) :
    s.recorded.submitAndWait b.recorded executable shape bound (m.withCalls calls) =
      ((s.submitAndWait b executable shape bound m).1,
        (s.submitAndWait b executable shape bound m).2.withCalls
          (calls ++ .submit s.queue executable shape bound ::
            DeviceCall.waits (b.submit s.queue executable shape bound m).1)) := by
  have hs : b.recorded.submit s.recorded.queue executable shape bound (m.withCalls calls) =
      ((b.submit s.queue executable shape bound m).1,
        (b.submit s.queue executable shape bound m).2.withCalls
          (calls ++ [.submit s.queue executable shape bound])) := rfl
  rw [submitAndWait_eq, submitAndWait_eq, hs]
  cases b.submit s.queue executable shape bound m with
  | mk r m₁ =>
      cases r with
      | ok event =>
          have hc : calls ++ .submit s.queue executable shape bound :: [.wait event] =
              (calls ++ [.submit s.queue executable shape bound]) ++ [.wait event] := by
            rw [List.append_assoc, List.singleton_append]
          simp only [DeviceCall.waits, hc]
          rfl
      | fault f => rfl
      | unwound p => rfl

variable (b s k range arguments m)

/-- What a launch asks of its device. -/
def asks : List (DeviceCall T) :=
  k.asks s.queue.context ++
    match k.resolve b s.queue.context m, bindArguments arguments with
    | (.ok executable, m₁), .ok bound =>
      let shape := range.arranged s.order
      let submitted := b.submit s.queue executable shape bound (m₁.retainBuffers (heldBy arguments))
      .submit s.queue executable shape bound :: DeviceCall.waits submitted.1
    | _, _ => []

theorem launch_recorded (calls : List (DeviceCall T)) :
    s.recorded.launch b.recorded k.recorded range arguments (m.withCalls calls) =
      ((s.launch b k range arguments m).1,
        (s.launch b k range arguments m).2.withCalls
          (calls ++ asks b s k range arguments m)) := by
  have hk : k.recorded.resolve b.recorded s.recorded.queue.context (m.withCalls calls) =
      ((k.resolve b s.queue.context m).1,
        (k.resolve b s.queue.context m).2.withCalls (calls ++ k.asks s.queue.context)) :=
    k.resolve_recorded s.queue.context
  rw [launch_eq, launch_eq, hk, asks, ← List.append_assoc]
  cases k.resolve b s.queue.context m with
  | mk r m₁ =>
      cases r with
      | fault f => simp only [List.append_nil]; rfl
      | unwound p => simp only [List.append_nil]
      | ok executable =>
          cases bindArguments arguments with
          | error p => simp only [List.append_nil]
          | ok bound =>
              have hm : (m₁.withCalls (calls ++ k.asks s.queue.context)).retainBuffers
                  (heldBy arguments) = (m₁.retainBuffers (heldBy arguments)).withCalls
                    (calls ++ k.asks s.queue.context) := rfl
              simp only [Action.ensuring, guarded_eq, hm, Backend.settled_recorded]
              rw [show s.recorded.order = s.order from rfl, submitAndWait_recorded]
              rfl

theorem schedule_recorded (hk : k.target = .device) :
    s.recorded.schedule b.recorded k.recorded range arguments (m.withCalls []) =
      ((s.schedule b k range arguments m).1,
        (s.schedule b k range arguments m).2.withCalls (asks b s k range arguments m)) := by
  have hr : k.recorded.target = .device := hk
  rw [schedule_device _ _ _ _ _ hr, schedule_device _ _ _ _ _ hk, launch_recorded]
  cases s.launch b k range arguments m with
  | mk r m₁ => cases r <;> rfl

/-! ## What a call does, and in which order it fails -/

/-- A call on a device that keeps a record. -/
structure Report (T : Carriers) where
  outcome : Outcome Error Unit
  after : Machine T
  calls : List (DeviceCall T)

def report : Report T :=
  let (outcome, after) :=
    s.recorded.schedule b.recorded k.recorded range arguments (m.withCalls [])
  ⟨outcome, after.plain, after.calls⟩

theorem report_host (hk : k.target = .host) :
    report b s k range arguments m =
      ⟨.fault (.methodNotImplemented "host kernel scheduling"),
        (s.schedule b k range arguments m).2, []⟩ := by
  have hr : k.recorded.target = .host := hk
  rw [report, schedule_host _ _ _ _ _ hr, schedule_host _ _ _ _ _ hk]
  rfl

theorem report_device (hk : k.target = .device) :
    report b s k range arguments m =
      ⟨(s.launch b k range arguments m).1,
        s.counted k (s.launch b k range arguments m).1 (s.launch b k range arguments m).2,
        asks b s k range arguments m⟩ := by
  rw [report, schedule_recorded _ _ _ _ _ _ hk, schedule_device _ _ _ _ _ hk]
  rfl

end Scheduler

/-- What the device gets for an argument. -/
inductive Argument.Binds : Argument → BoundArgument → Prop where
  | buffer (handle : Handle) (type : ElementType) (access : Access) :
      Binds (.buffer handle type access) (.buffer handle type access)
  | constant (value : Scalar) : Binds (.constant value) (.scalar value)

/-- Each argument is bound in its own place. -/
def BindsAll (arguments : List Argument) (bound : List BoundArgument) : Prop :=
  bound.length = arguments.length ∧
    ∀ (i : Nat) (a : Argument), arguments[i]? = some a → ∃ x, bound[i]? = some x ∧ a.Binds x

theorem Argument.exists_binds {a : Argument} (h : a.isLocal = false) :
    ∃ x, a.bound? = some x ∧ a.Binds x := by
  cases a with
  | buffer handle type access => exact ⟨_, rfl, .buffer handle type access⟩
  | localMemory type length => cases h
  | constant value => exact ⟨_, rfl, .constant value⟩

theorem BindsAll.cons {a : Argument} {x : BoundArgument} {bound : List BoundArgument}
    (ha : a.Binds x) (h : BindsAll arguments bound) : BindsAll (a :: arguments) (x :: bound) := by
  obtain ⟨hl, hi⟩ := h
  refine ⟨congrArg (· + 1) hl, fun i a' ha' => ?_⟩
  cases i with
  | zero => cases ha'; exact ⟨x, rfl, ha⟩
  | succ i => exact hi i a' ha'

/-- Without local memory, all arguments are bound. -/
theorem bindArguments_binds (h : ∀ a ∈ arguments, a.isLocal = false) :
    ∃ bound, bindArguments arguments = .ok bound ∧ BindsAll arguments bound := by
  induction arguments with
  | nil => exact ⟨[], rfl, rfl, fun i a hi => by cases hi⟩
  | cons a rest ih =>
      obtain ⟨ha, hr⟩ := List.forall_mem_cons.mp h
      obtain ⟨bound, hb, hall⟩ := ih hr
      obtain ⟨x, hx, hbinds⟩ := Argument.exists_binds ha
      refine ⟨x :: bound, ?_, hall.cons hbinds⟩
      rw [bindArguments_cons, hx, hb]
      rfl

/-- Local memory anywhere in the list unwinds. -/
theorem bindArguments_local (h : ∃ a ∈ arguments, a.isLocal = true) :
    bindArguments arguments = .error .localArgument := by
  induction arguments with
  | nil => obtain ⟨a, ha, -⟩ := h; cases ha
  | cons a rest ih =>
      rw [bindArguments_cons]
      cases hx : a.bound? with
      | none => rfl
      | some x =>
          have hr : ∃ a ∈ rest, a.isLocal = true := by
            obtain ⟨a', ha, hl⟩ := h
            rcases List.mem_cons.mp ha with rfl | ha
            · cases a' <;> cases hl; cases hx
            · exact ⟨a', ha, hl⟩
          rw [ih hr]
          rfl

theorem bindArguments_error {p : Panic} (h : bindArguments arguments = .error p) :
    p = .localArgument := by
  by_cases hl : ∃ a ∈ arguments, a.isLocal = true
  · rw [bindArguments_local hl] at h
    cases h
    rfl
  · obtain ⟨bound, hb, -⟩ := bindArguments_binds fun a ha =>
      Bool.eq_false_iff.mpr fun hla => hl ⟨a, ha, hla⟩
    rw [hb] at h
    cases h

namespace Scheduler

/-- The kernel is resolved, then the whole range is submitted once with all arguments, and nothing
but waiting comes after that. -/
def SubmitsOnce (s : Scheduler T) (k : Kernel T) (range : LaunchRange) (arguments : List Argument)
    (executable : T.Executable) (calls : List (DeviceCall T)) : Prop :=
  ∃ shape bound waits, range.shape s.order = .ok shape ∧ BindsAll arguments bound ∧
    calls = k.asks s.queue.context ++ .submit s.queue executable shape bound :: waits ∧
    ∀ c ∈ waits, ∃ event, c = .wait event

theorem report_fault {f : T.Fault} {m₁ : Machine T} (hk : k.target = .device)
    (hr : k.resolve b s.queue.context m = (.fault f, m₁)) :
    let r := report b s k range arguments m
    r.outcome = .fault (b.deviceError f) ∧ r.after.buffers = m₁.buffers ∧
      r.calls = k.asks s.queue.context := by
  rw [report_device _ _ _ _ _ _ hk, launch_eq, asks, hr]
  exact ⟨rfl, rfl, List.append_nil _⟩

theorem report_local {executable : T.Executable} {m₁ : Machine T} (hk : k.target = .device)
    (hr : k.resolve b s.queue.context m = (.ok executable, m₁))
    (hl : ∃ a ∈ arguments, a.isLocal = true) :
    report b s k range arguments m = ⟨.unwound .localArgument, m₁, k.asks s.queue.context⟩ := by
  rw [report_device _ _ _ _ _ _ hk, launch_eq, asks, hr]
  simp only [bindArguments_local hl, List.append_nil]
  rfl

theorem report_submits {executable : T.Executable} {m₁ : Machine T} (hk : k.target = .device)
    (hr : k.resolve b s.queue.context m = (.ok executable, m₁))
    (hl : ∀ a ∈ arguments, a.isLocal = false) :
    SubmitsOnce s k range arguments executable (report b s k range arguments m).calls ∧
      ∀ p, (report b s k range arguments m).outcome ≠ .unwound p := by
  obtain ⟨bound, hb, hall⟩ := bindArguments_binds hl
  rw [report_device _ _ _ _ _ _ hk]
  constructor
  · refine ⟨_, bound, _, range.shape_eq s.order, hall, by rw [asks, hr, hb], fun c hc => ?_⟩
    cases hs : (b.submit s.queue executable (range.arranged s.order) bound
        (m₁.retainBuffers (heldBy arguments))).1 with
    | ok event =>
        rw [hs] at hc
        exact ⟨event, List.mem_singleton.mp hc⟩
    | fault f => rw [hs] at hc; cases hc
    | unwound p => rw [hs] at hc; cases hc
  · intro p hp
    rcases launch_unwound_iff.mp hp with h | ⟨-, h⟩
    · rw [hr] at h; cases h
    · rw [hb] at h; cases h

/-- A kernel for the host is turned away. Otherwise its kernel is resolved first; where that
returns, local memory comes next, and without it there is one submission, of the range in the order
of the scheduler and of every argument in its place. -/
theorem schedule_calls (b : Backend T) (s : Scheduler T) (k : Kernel T) (range : LaunchRange)
    (arguments : List Argument) (m : Machine T) :
    let r := report b s k range arguments m
    let asked := k.asks s.queue.context
    (r.outcome, r.after) = s.schedule b k range arguments m ∧
    (k.target = .host →
      r.outcome = .fault (.methodNotImplemented "host kernel scheduling") ∧
        r.after.buffers = m.buffers ∧ r.calls = []) ∧
    (k.target = .device →
      (∀ f m₁, k.resolve b s.queue.context m = (.fault f, m₁) →
        r.outcome = .fault (b.deviceError f) ∧ r.after.buffers = m₁.buffers ∧ r.calls = asked) ∧
      (∀ executable m₁, k.resolve b s.queue.context m = (.ok executable, m₁) →
        ((∃ a ∈ arguments, a.isLocal = true) →
          (∃ p, r.outcome = .unwound p ∧
            p.text? = some "local kernel arguments are not supported") ∧
          r.after = m₁ ∧ r.calls = asked) ∧
        ((∀ a ∈ arguments, a.isLocal = false) →
          SubmitsOnce s k range arguments executable r.calls ∧ ∀ p, r.outcome ≠ .unwound p)) ∧
      ((∀ p, (k.resolve b s.queue.context m).1 ≠ .unwound p) →
        r.outcome ≠ .unwound .argumentOrder)) := by
  intro r asked
  refine ⟨?_, fun hk => ?_, fun hk => ⟨fun f m₁ hr => report_fault hk hr, ?_, fun hu hp => ?_⟩⟩
  · cases hk : k.target with
    | host => simp only [r, report_host _ _ _ _ _ _ hk, schedule_host _ _ _ _ _ hk]
    | device => simp only [r, report_device _ _ _ _ _ _ hk, schedule_device _ _ _ _ _ hk]
  · simp only [r, report_host _ _ _ _ _ _ hk, schedule_host _ _ _ _ _ hk]
    exact ⟨trivial, rfl, trivial⟩
  · refine fun executable m₁ hr => ⟨fun hl => ?_, fun hl => report_submits hk hr hl⟩
    rw [show r = _ from report_local hk hr hl]
    exact ⟨⟨_, rfl, rfl⟩, rfl, rfl⟩
  · rw [show r = _ from report_device _ _ _ _ _ _ hk] at hp
    rcases launch_unwound_iff.mp hp with h | ⟨-, h⟩
    · exact hu _ h
    · cases bindArguments_error h

/-- The idle kernel as an object of the context with the number `id`. -/
def idleObject (id : Nat) : Kernel Cpu.carriers :=
  { idleKernel with
    entry := .object ⟨⟨0⟩, ⟨id, {}, {}, Cpu.usualCapacity⟩, ⟨"idle", Cpu.Implementation.idle, {}⟩⟩ }

/-- A machine with one buffer, and the counters of one scheduler. -/
def oneWord : Machine Cpu.carriers :=
  { state := {}, tallies := #[{}], buffers := (Store.insert {} ⟨.zeroed 4, {}⟩).2 }

theorem schedule_calls_lone :
    let spoiled := [Argument.buffer ⟨0⟩ .u32 .write, .localMemory .f32 4]
    let sound := [Argument.buffer ⟨0⟩ .u32 .write, .constant ⟨.i32, 5⟩]
    let r k arguments := report Cpu.backend lone k fourItems arguments oneWord
    (r { idleKernel with target := .host } spoiled).calls = [] ∧
      (r (idleObject 1) spoiled).outcome = .fault (Cpu.backend.deviceError .invalidKernel) ∧
      (r (idleObject 0) spoiled).outcome ≠ .unwound .argumentOrder ∧
      (r (idleObject 0) spoiled).after = oneWord ∧
      SubmitsOnce lone (idleObject 0) fourItems sound ⟨"idle", Cpu.Implementation.idle, {}⟩
        (r (idleObject 0) sound).calls := by
  intro spoiled sound r
  have host := schedule_calls Cpu.backend lone { idleKernel with target := .host } fourItems spoiled
    oneWord
  have foreign := schedule_calls Cpu.backend lone (idleObject 1) fourItems spoiled oneWord
  have unbound := schedule_calls Cpu.backend lone (idleObject 0) fourItems spoiled oneWord
  have submitted := schedule_calls Cpu.backend lone (idleObject 0) fourItems sound oneWord
  refine ⟨(host.2.1 rfl).2.2, ((foreign.2.2 rfl).1 _ _ rfl).1,
    (unbound.2.2 rfl).2.2 fun p h => (by cases h), ?_, ?_⟩
  · exact (((unbound.2.2 rfl).2.1 _ _ rfl).1 (by decide)).2.1
  · exact (((submitted.2.2 rfl).2.1 _ _ rfl).2 (by decide)).1

end Scheduler

end Launches

end Offload
