import Offload.Proofs.Isolation

/-!
# What launches depend on

A launch reads the buffers and the watches of its machine, and nothing of what earlier launches have
left in the log, the trace or the counters. On machines that are alike in the former it ends alike.
-/

namespace Offload

/-- `x` ends in the same way on states that are related, and leaves related states. -/
def Action.Respects {σ ε α : Type} (R : σ → σ → Prop) (x : Action σ ε α) : Prop :=
  ∀ s t, R s t → (x s).1 = (x t).1 ∧ R (x s).2 (x t).2

namespace Action.Respects

variable {σ ε δ α β : Type} {R : σ → σ → Prop}

theorem pure (a : α) : Respects R (Pure.pure a : Action σ ε α) := fun _ _ h => ⟨rfl, h⟩

theorem lift (r : Outcome ε α) : Respects R (lift r : Action σ ε α) := fun _ _ h => ⟨rfl, h⟩

theorem modify {f : σ → σ} (hf : ∀ s t, R s t → R (f s) (f t)) :
    Respects R (modify f : Action σ ε Unit) := fun s t h => ⟨rfl, hf s t h⟩

theorem bind {x : Action σ ε α} {g : α → Action σ ε β} (hx : Respects R x)
    (hg : ∀ a, Respects R (g a)) : Respects R (x >>= g) := by
  intro s t h
  obtain ⟨he, hr⟩ := hx s t h
  show (Action.bind x g s).1 = (Action.bind x g t).1 ∧
    R (Action.bind x g s).2 (Action.bind x g t).2
  unfold Action.bind
  generalize x s = p, x t = q at he hr
  obtain ⟨r, s'⟩ := p
  obtain ⟨r', t'⟩ := q
  cases he
  cases r with
  | ok a => exact hg a s' t' hr
  | fault e => exact ⟨rfl, hr⟩
  | unwound p => exact ⟨rfl, hr⟩

theorem mapFault {f : ε → δ} {x : Action σ ε α} (hx : Respects R x) :
    Respects R (x.mapFault f) := fun s t h =>
  ⟨congrArg (Outcome.mapFault f) (hx s t h).1, (hx s t h).2⟩

theorem ensuring {f : σ → σ} {x : Action σ ε α} (hx : Respects R x)
    (hf : ∀ s t, R s t → R (f s) (f t)) : Respects R (x.ensuring f) := fun s t h =>
  ⟨(hx s t h).1, hf _ _ (hx s t h).2⟩

end Action.Respects

namespace Cpu

/-- Machines on which launches go the same way. -/
structure Alike (m n : Machine carriers) : Prop where
  buffers : m.buffers = n.buffers
  watched : m.state.watched = n.state.watched

namespace Alike

variable {m n : Machine carriers}

theorem withBuffers (h : Alike m n) (f : Store Allocation → Store Allocation) :
    Alike { m with buffers := f m.buffers } { n with buffers := f n.buffers } :=
  ⟨congrArg f h.buffers, h.watched⟩

theorem retainBuffers (h : Alike m n) (handles : List Handle) :
    Alike (m.retainBuffers handles) (n.retainBuffers handles) :=
  h.withBuffers fun s => s.retainAll handles

theorem releaseBuffers (h : Alike m n) (handles : List Handle) :
    Alike (m.releaseBuffers handles) (n.releaseBuffers handles) :=
  h.withBuffers fun s => s.releaseAll handles

theorem watchedRefs? (h : Alike m n) (name : String) :
    Cpu.watchedRefs? m name = Cpu.watchedRefs? n name := by
  simp only [Cpu.watchedRefs?, h.buffers, h.watched]

end Alike

theorem Procedure.run_respects {α : Type} (slots : List Slot) (p : Procedure α) (cursor : Nat) :
    Action.Respects Alike (p.run slots cursor) := by
  induction p generalizing cursor with
  | done a => exact fun _ _ h => ⟨rfl, h⟩
  | fail e => exact fun _ _ h => ⟨rfl, h⟩
  | unwind p => exact fun _ _ h => ⟨rfl, h⟩
  | ask request next ih =>
      intro m n h
      simp only [Procedure.run, h.buffers]
      cases slots[cursor]? with
      | some slot => exact ih _ _ m n h
      | none => exact ih _ _ m n h
  | store index type values next ih =>
      intro m n h
      simp only [Procedure.run]
      cases slots[index]? with
      | some slot => exact ih _ _ _ (h.withBuffers fun s => slot.store s type values)
      | none => exact ih _ m n h
  | restart next ih => exact ih 0
  | record entry next ih => exact fun m n h => ih _ _ _ ⟨h.buffers, h.watched⟩
  | references name next ih =>
      intro m n h
      simp only [Procedure.run, h.watchedRefs? name]
      exact ih _ _ m n h

theorem runBound_respects (e : Executable) (shape : LaunchShape) (bound : Invocation.Bound)
    {m n : Machine carriers} (h : Alike m n) :
    (runBound e shape bound m).1 = (runBound e shape bound n).1 ∧
      Alike (runBound e shape bound m).2 (runBound e shape bound n).2 := by
  obtain ⟨hr, hm⟩ :=
    Procedure.run_respects bound.slots (e.code ⟨shape, e.options.defineValue?, bound.slots.length⟩) 0
      _ _ (h.withBuffers fun s => bound.locks.foldl Invocation.acquire s)
  exact ⟨congrArg (fun r => r.contain fun p => Fault.panicked p.report) hr,
    hm.withBuffers fun s => bound.locks.foldl Invocation.release s⟩

theorem execute_respects (address : Handle → Nat) (e : Executable) (shape : LaunchShape)
    (arguments : List BoundArgument) {m n : Machine carriers} (h : Alike m n) :
    (execute address e shape arguments m).1 = (execute address e shape arguments n).1 ∧
      Alike (execute address e shape arguments m).2 (execute address e shape arguments n).2 := by
  unfold execute
  cases Invocation.bind address arguments with
  | error fault => exact ⟨rfl, h⟩
  | ok bound => exact runBound_respects e shape bound h

theorem submit_respects (queue : Queue carriers) (e : Executable) (shape : LaunchShape)
    (arguments : List BoundArgument) : Action.Respects Alike (submit queue e shape arguments) := by
  intro m n h
  obtain ⟨hr, hm⟩ := execute_respects Handle.index e shape arguments
    (show Alike { m with state.accepted := m.state.accepted ++ [queue.id] }
      { n with state.accepted := n.state.accepted ++ [queue.id] } from ⟨h.buffers, h.watched⟩)
  exact ⟨congrArg Outcome.ok hr, hm.releaseBuffers (boundBuffers arguments)⟩

theorem resolve_respects (k : Kernel carriers) (context : Context) :
    Action.Respects Alike (k.resolve backend context) := by
  unfold Kernel.resolve
  cases k.entry with
  | loaded executable => exact .pure executable
  | object kernel =>
      intro m n h
      simp only [backend, resolve]
      split
      · exact ⟨rfl, h⟩
      · exact ⟨rfl, h⟩

theorem bindAll_respects (group : CommandGroup) (index : Nat) (arguments : List Argument) :
    Action.Respects Alike (@Scheduler.bindAll carriers group index arguments) := by
  induction arguments generalizing group index with
  | nil => exact .pure group
  | cons a rest ih =>
      intro m n h
      simp only [Scheduler.bindAll]
      cases a.bound? with
      | some x =>
          have hx := (h.retainBuffers x.handle?.toList).retainBuffers x.handle?.toList
          simp only [CommandGroup.setArgument]
          split
          · exact ih _ _ _ _ hx
          · exact ⟨rfl, hx.releaseBuffers _⟩
      | none => exact ⟨rfl, h.releaseBuffers _⟩

theorem guarded_respects {x : Action (Machine carriers) Fault Unit}
    (hx : Action.Respects Alike x) : Action.Respects Alike (Scheduler.guarded backend x) := by
  intro m n h
  obtain ⟨hr, hm⟩ := hx m n h
  simp only [Scheduler.guarded_eq]
  exact ⟨congrArg backend.settled hr, hm⟩

theorem launch_respects (s : Scheduler carriers) (k : Kernel carriers) (range : LaunchRange)
    (arguments : List Argument) :
    Action.Respects Alike (s.launch backend k range arguments) := by
  refine .bind (.lift _) fun shape => .bind (resolve_respects k _).mapFault fun e =>
    .bind (bindAll_respects {} 0 arguments) fun group =>
      .ensuring (guarded_respects ?_) fun _ _ h => h.releaseBuffers _
  refine .bind (submit_respects _ e shape _) fun event =>
    .bind (.modify fun _ _ h => ?_) fun _ => .lift _
  exact ⟨h.buffers, h.watched⟩

/-- Calls on machines that are alike end alike. -/
theorem schedule_respects (s : Scheduler carriers) (k : Kernel carriers) (range : LaunchRange)
    (arguments : List Argument) :
    Action.Respects Alike (s.schedule backend k range arguments) := by
  intro m n h
  cases hk : k.target with
  | host =>
      rw [Scheduler.schedule_host backend s range arguments m hk,
        Scheduler.schedule_host backend s range arguments n hk]
      exact ⟨rfl, ⟨h.buffers, h.watched⟩⟩
  | device =>
      obtain ⟨hr, hm⟩ := launch_respects s k range arguments m n h
      rw [Scheduler.schedule_device backend s range arguments m hk,
        Scheduler.schedule_device backend s range arguments n hk]
      refine ⟨hr, ?_, ?_⟩
      · simp only [Scheduler.counted_buffers, hm.buffers]
      · simp only [Scheduler.counted_state, hm.watched]

end Cpu

end Offload
