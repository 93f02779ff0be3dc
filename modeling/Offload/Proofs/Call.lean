import Offload.Proofs.Alike
import Offload.Proofs.Stage

/-!
# What a call takes

While a kernel runs, its call owns two references for each buffer argument, and the locks. However
the call ends, all of that is given back.
-/

namespace Offload.Cpu

/-- One launch of a kernel. -/
structure Call where
  scheduler : Scheduler carriers
  kernel : Kernel carriers
  range : LaunchRange
  arguments : List Argument

namespace Call

variable {c : Call} {m now : Machine carriers} {e : Executable} {arguments : List BoundArgument}
  {bound : Invocation.Bound}

def run (c : Call) : Action (Machine carriers) Error Unit :=
  c.scheduler.schedule backend c.kernel c.range c.arguments

/-- The call gets as far as its kernel, which is the code of `e`. -/
structure Begins (c : Call) (m : Machine carriers) (e : Executable)
    (arguments : List BoundArgument) (bound : Invocation.Bound) : Prop where
  device : c.kernel.target = .device
  resolved : c.kernel.resolve backend c.scheduler.queue.context m = (.ok e, m)
  handed : bindArguments c.arguments = .ok arguments
  locked : Invocation.bind Handle.index arguments = .ok bound

/-- The machine on which a call is accepted. -/
def accepted (c : Call) (m : Machine carriers) : Machine carriers :=
  { m.retainBuffers (heldBy c.arguments) with
    state.accepted := m.state.accepted ++ [c.scheduler.queue.id] }

/-- The kernel before its first step. -/
def firstStage (c : Call) (m : Machine carriers) (e : Executable) (bound : Invocation.Bound) :
    Stage Unit :=
  .first e (c.range.arranged c.scheduler.order) bound (c.accepted m)

/-- The kernel of a call on `m` is running, and `now` is the machine that it sees. -/
def Running (c : Call) (m now : Machine carriers) : Prop :=
  ∃ e arguments bound stage, c.Begins m e arguments bound ∧
    Stage.Steps bound.slots (c.firstStage m e bound) stage ∧ stage.machine = now

/-- A call that hands its arguments to the device gives back, in the end, what it took. -/
theorem run_buffers (hk : c.kernel.target = .device)
    (hr : c.kernel.resolve backend c.scheduler.queue.context m = (.ok e, m))
    (ha : bindArguments c.arguments = .ok arguments) :
    (c.run m).2.buffers =
      (execute Handle.index e (c.range.arranged c.scheduler.order) arguments
        (c.accepted m)).2.buffers.releaseAll (heldBy c.arguments) := by
  rw [run, Scheduler.schedule_device _ _ _ _ _ hk, Scheduler.counted_buffers,
    Scheduler.launch_eq, hr]
  simp only [ha, Action.ensuring, Scheduler.guarded_eq, Scheduler.submitAndWait_eq]
  show (Store.releaseAll _ (boundBuffers arguments)).releaseAll (buffersOf c.arguments) = _
  rw [boundBuffers_of_bind ha, ← Store.releaseAll_append]
  rfl

theorem run_outcome (hk : c.kernel.target = .device)
    (hr : c.kernel.resolve backend c.scheduler.queue.context m = (.ok e, m))
    (ha : bindArguments c.arguments = .ok arguments) :
    (c.run m).1 = backend.settled (.ofExcept
      (execute Handle.index e (c.range.arranged c.scheduler.order) arguments (c.accepted m)).1) := by
  rw [run, Scheduler.schedule_device _ _ _ _ _ hk, Scheduler.launch_eq, hr]
  simp only [ha, Action.ensuring, Scheduler.guarded_eq, Scheduler.submitAndWait_eq]
  rfl

/-- What the kernel leaves behind is unlocked and given back. -/
theorem Begins.buffers_eq (h : c.Begins m e arguments bound) :
    ∃ last, c.Running m last ∧ (c.run m).2.buffers =
      (bound.locks.foldl Invocation.release last.buffers).releaseAll (heldBy c.arguments) := by
  obtain ⟨last, steps, hl⟩ :=
    runBound_buffers e (c.range.arranged c.scheduler.order) bound (c.accepted m)
  refine ⟨last.machine, ⟨e, arguments, bound, last, h, steps, rfl⟩, ?_⟩
  rw [run_buffers h.device h.resolved h.handed, execute, h.locked, ← hl]

theorem accepted_lends (c : Call) (m : Machine carriers) :
    Lends (heldBy c.arguments ++ []) [] m.buffers (c.accepted m).buffers :=
  (Lends.refl m.buffers).retainAll (heldBy c.arguments)

/-- A running kernel sees what its call has taken. -/
theorem Running.lends (h : c.Running m now) :
    ∃ locks, Lends (heldBy c.arguments) locks m.buffers now.buffers := by
  obtain ⟨e, arguments, bound, stage, -, steps, rfl⟩ := h
  have hl := steps.lends (Stage.first_lends (c.accepted_lends m) e _ bound)
  rw [List.append_nil] at hl
  exact ⟨_, hl⟩

/-- After a call, nothing is taken. -/
theorem run_lends (c : Call) (m : Machine carriers) :
    Lends [] [] m.buffers (c.run m).2.buffers := by
  cases hk : c.kernel.target with
  | host => rw [run, Scheduler.schedule_host _ _ _ _ _ hk]; exact .refl _
  | device =>
      have hm : (c.kernel.resolve backend c.scheduler.queue.context m).2 = m :=
        Kernel.resolve_keeps (f := id) resolve_keeps c.kernel c.scheduler.queue.context m
      have hl : (c.run m).2.buffers =
          (c.scheduler.launch backend c.kernel c.range c.arguments m).2.buffers := by
        rw [run, Scheduler.schedule_device _ _ _ _ _ hk, Scheduler.counted_buffers]
      cases hr : c.kernel.resolve backend c.scheduler.queue.context m with
      | mk r m₁ =>
          rw [hr] at hm
          cases hm
          rw [Scheduler.launch_eq, hr] at hl
          cases r with
          | fault f => rw [hl]; exact .refl _
          | unwound p => rw [hl]; exact .refl _
          | ok e =>
              cases ha : bindArguments c.arguments with
              | error p => rw [ha] at hl; rw [hl]; exact .refl _
              | ok arguments =>
                  rw [run_buffers hk hr ha]
                  exact (execute_lends (c.accepted_lends _) _ e _ arguments).releaseAll

theorem run_watched (c : Call) (m : Machine carriers) :
    (c.run m).2.state.watched = m.state.watched := by
  cases hk : c.kernel.target with
  | host => rw [run, Scheduler.schedule_host _ _ _ _ _ hk]; rfl
  | device =>
      have hr : (c.kernel.resolve backend c.scheduler.queue.context).Keeps (·.state.watched) :=
        Kernel.resolve_keeps resolve_keeps c.kernel _
      have hs e shape bound : (submit c.scheduler.queue e shape bound).Keeps (·.state.watched) :=
        fun m => (congrArg State.watched (submit_state c.scheduler.queue e shape bound m) :)
      have h := Scheduler.launch_launched backend c.scheduler c.kernel c.range c.arguments m
      rw [run, Scheduler.schedule_device _ _ _ _ _ hk, Scheduler.counted_state]
      generalize c.scheduler.launch backend c.kernel c.range c.arguments m = p at h
      obtain ⟨outcome, after⟩ := p
      cases h with
      | resolveFault resolved => exact hr.of_eq resolved
      | resolveUnwound resolved => exact hr.of_eq resolved
      | bindUnwound resolved _ => exact hr.of_eq resolved
      | submitFault resolved _ submitted =>
          have hw := hr.of_eq resolved
          have hm := (hs _ _ _).of_eq submitted
          exact hm.trans hw
      | submitUnwound resolved _ submitted =>
          have hw := hr.of_eq resolved
          have hm := (hs _ _ _).of_eq submitted
          exact hm.trans hw
      | waited resolved _ submitted ended _ =>
          have hw := hr.of_eq resolved
          have hm := (hs _ _ _).of_eq submitted
          cases ended
          exact hm.trans hw

end Call

end Offload.Cpu
