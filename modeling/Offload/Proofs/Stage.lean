import Offload.Proofs.Loan

/-!
# Kernels on their way

A kernel one step at a time. Steps read, leave traces, or change bytes of buffers; what a launch has
taken of the buffers stays taken until the kernel has come to its end.
-/

namespace Offload.Cpu

/-- What is left to run of a kernel, the next argument to be handed out, and the machine. -/
structure Stage (α : Type) where
  rest : Procedure α
  cursor : Nat
  machine : Machine carriers

namespace Stage

variable {α : Type} {slots : List Slot} {s s' last : Stage α}

/-- The stage after one step, unless the kernel is at its end. -/
def next? (slots : List Slot) (s : Stage α) : Option (Stage α) :=
  match s.rest with
  | .done _ | .fail _ | .unwind _ => none
  | .ask request next =>
    match slots[s.cursor]? with
    | some slot =>
      let answer := slot.answer s.machine.buffers s.cursor request
      some { s with rest := next answer, cursor := s.cursor + 1 }
    | none => some { s with rest := next (.error (.missingArgument s.cursor slots.length)) }
  | .store index type values next =>
    match slots[index]? with
    | some slot =>
      some ⟨next, s.cursor,
        { s.machine with buffers := slot.store s.machine.buffers type values }⟩
    | none => some { s with rest := next }
  | .restart next => some { s with rest := next, cursor := 0 }
  | .record entry next => some ⟨next, s.cursor, s.machine.record entry⟩
  | .references name next => some { s with rest := next (watchedRefs? s.machine name) }

def run (slots : List Slot) (s : Stage α) : Outcome Fault α × Machine carriers :=
  s.rest.run slots s.cursor s.machine

theorem run_next (h : s.next? slots = some s') : s.run slots = s'.run slots := by
  obtain ⟨rest, cursor, machine⟩ := s
  unfold next? at h
  cases rest with
  | done a => cases h
  | fail e => cases h
  | unwind p => cases h
  | ask request next =>
      simp only [run, Procedure.run]
      cases hs : slots[cursor]? with
      | some slot => simp only [hs] at h; cases h; rfl
      | none => simp only [hs] at h; cases h; rfl
  | store index type values next =>
      simp only [run, Procedure.run]
      cases hs : slots[index]? with
      | some slot => simp only [hs] at h; cases h; rfl
      | none => simp only [hs] at h; cases h; rfl
  | restart next => cases h; rfl
  | record entry next => cases h; rfl
  | references name next => cases h; rfl

theorem run_end (h : s.next? slots = none) : (s.run slots).2 = s.machine := by
  obtain ⟨rest, cursor, machine⟩ := s
  unfold next? at h
  cases rest with
  | done a => rfl
  | fail e => rfl
  | unwind p => rfl
  | ask request next => simp only at h; split at h <;> cases h
  | store index type values next => simp only at h; split at h <;> cases h
  | restart next => cases h
  | record entry next => cases h
  | references name next => cases h

/-- The stages that a kernel comes through. -/
inductive Steps (slots : List Slot) : Stage α → Stage α → Prop where
  | refl (s : Stage α) : Steps slots s s
  | step {s s' s'' : Stage α} (next : s.next? slots = some s') (steps : Steps slots s' s'') :
      Steps slots s s''

theorem Steps.run_eq (h : Steps slots s s') : s.run slots = s'.run slots := by
  induction h with
  | refl s => rfl
  | step next _ ih => exact (run_next next).trans ih

/-- The kernel comes to its end. -/
def Finishes (slots : List Slot) (s : Stage α) : Prop :=
  ∃ last, Steps slots s last ∧ last.next? slots = none

theorem Finishes.of_next (h : s.next? slots = some s') (hf : Finishes slots s') :
    Finishes slots s := by
  obtain ⟨last, steps, hl⟩ := hf
  exact ⟨last, .step h steps, hl⟩

/-- The next stage runs a subtree of the procedure. -/
theorem finishes (slots : List Slot) (rest : Procedure α) (cursor : Nat)
    (machine : Machine carriers) : Finishes slots ⟨rest, cursor, machine⟩ := by
  induction rest generalizing cursor machine with
  | done a => exact ⟨_, .refl _, rfl⟩
  | fail e => exact ⟨_, .refl _, rfl⟩
  | unwind p => exact ⟨_, .refl _, rfl⟩
  | ask request next ih =>
      cases hs : slots[cursor]? with
      | some slot => exact .of_next (by simp only [next?, hs]; rfl) (ih _ _ _)
      | none => exact .of_next (by simp only [next?, hs]; rfl) (ih _ _ _)
  | store index type values next ih =>
      cases hs : slots[index]? with
      | some slot => exact .of_next (by simp only [next?, hs]; rfl) (ih _ _)
      | none => exact .of_next (by simp only [next?, hs]; rfl) (ih _ _)
  | restart next ih => exact .of_next rfl (ih _ _)
  | record entry next ih => exact .of_next rfl (ih _ _)
  | references name next ih => exact .of_next rfl (ih _ _ _)

/-- The machine after a kernel is that of its last stage. -/
theorem run_machine (slots : List Slot) (s : Stage α) :
    ∃ last, Steps slots s last ∧ (s.run slots).2 = last.machine := by
  obtain ⟨last, steps, hl⟩ := finishes slots s.rest s.cursor s.machine
  exact ⟨last, steps, by rw [steps.run_eq, run_end hl]⟩

variable {held : List Handle} {locks : List LockRequest} {before : Store Allocation}

theorem next?_lends (hl : Lends held locks before s.machine.buffers)
    (h : s.next? slots = some s') : Lends held locks before s'.machine.buffers := by
  obtain ⟨rest, cursor, machine⟩ := s
  unfold next? at h
  cases rest with
  | done a => cases h
  | fail e => cases h
  | unwind p => cases h
  | ask request next => simp only at h; split at h <;> cases h <;> exact hl
  | store index type values next =>
      simp only at h
      split at h
      · cases h; exact hl.store type values _
      · cases h; exact hl
  | restart next => cases h; exact hl
  | record entry next => cases h; exact hl
  | references name next => cases h; exact hl

theorem Steps.lends (h : Steps slots s s') (hl : Lends held locks before s.machine.buffers) :
    Lends held locks before s'.machine.buffers := by
  induction h with
  | refl s => exact hl
  | step next _ ih => exact ih (next?_lends hl next)

/-- A kernel before its first step, with its buffers locked. -/
def first (e : Executable) (shape : LaunchShape) (bound : Invocation.Bound)
    (m : Machine carriers) : Stage Unit where
  rest := e.code ⟨shape, e.options.defineValue?, bound.slots.length⟩
  cursor := 0
  machine := { m with buffers := bound.locks.foldl Invocation.acquire m.buffers }

theorem first_lends {m : Machine carriers} (hl : Lends held locks before m.buffers)
    (e : Executable) (shape : LaunchShape) (bound : Invocation.Bound) :
    Lends held (bound.locks ++ locks) before (first e shape bound m).machine.buffers :=
  hl.acquireAll bound.locks

end Stage

variable {held : List Handle} {locks : List LockRequest} {before : Store Allocation}
  {m : Machine carriers}

/-- A launch unlocks what the last stage of its kernel leaves. -/
theorem runBound_buffers (e : Executable) (shape : LaunchShape) (bound : Invocation.Bound)
    (m : Machine carriers) :
    ∃ last, Stage.Steps bound.slots (.first e shape bound m) last ∧
      (runBound e shape bound m).2.buffers =
        bound.locks.foldl Invocation.release last.machine.buffers := by
  obtain ⟨last, steps, hl⟩ := (Stage.first e shape bound m).run_machine bound.slots
  refine ⟨last, steps, ?_⟩
  rw [← hl]
  rfl

theorem execute_lends (hl : Lends held locks before m.buffers) (address : Handle → Nat)
    (e : Executable) (shape : LaunchShape) (arguments : List BoundArgument) :
    Lends held locks before (execute address e shape arguments m).2.buffers := by
  unfold execute
  cases Invocation.bind address arguments with
  | error fault => exact hl
  | ok bound =>
      obtain ⟨last, steps, he⟩ := runBound_buffers e shape bound m
      simp only [he]
      exact (steps.lends (Stage.first_lends hl e shape bound)).unlockAll

end Offload.Cpu
