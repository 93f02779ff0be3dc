import Offload.Proofs.Call

/-!
# Buffers across launches

No launch outlives its call: afterwards the buffers have the references that they had, and no locks.
What a launch leaves for launches to come is bytes.
-/

namespace Offload.Cpu

/-! ## Locks -/

/-- No buffer is locked. -/
def Unlocked (s : Store Allocation) : Prop :=
  ∀ h c, s.cell? h = some c → c.value.locks = {}

namespace Unlocked

variable {s t : Store Allocation} {h : Handle} {f : Counted Allocation → Option (Counted Allocation)}

theorem empty : Unlocked {} := by
  intro h c hc
  simp [Store.cell?] at hc

theorem adjust (hs : Unlocked s)
    (hf : ∀ c d, s.cell? h = some c → f c = some d → c.value.locks = {} → d.value.locks = {}) :
    Unlocked (s.adjust h f) := by
  intro k d hd
  by_cases hk : k = h
  · subst hk
    rw [Store.cell?_adjust_self] at hd
    obtain ⟨c, hc, hd⟩ := Option.bind_eq_some_iff.mp hd
    exact hf c d hc hd (hs k c hc)
  · rw [Store.cell?_adjust_ne hk] at hd
    exact hs k d hd

theorem retainAll (hs : Unlocked s) (handles : List Handle) : Unlocked (s.retainAll handles) := by
  induction handles generalizing s with
  | nil => exact hs
  | cons k rest ih =>
      refine ih (hs.adjust fun c d _ hd hl => ?_)
      cases hd
      exact hl

theorem releaseAll (hs : Unlocked s) (handles : List Handle) : Unlocked (s.releaseAll handles) := by
  induction handles generalizing s with
  | nil => exact hs
  | cons k rest ih =>
      refine ih (hs.adjust fun c d _ hd hl => ?_)
      simp only [Counted.release?] at hd
      split at hd
      · cases hd; exact hl
      · cases hd

theorem insert (hs : Unlocked s) (memory : Memory) : Unlocked (s.insert { memory }).2 := by
  intro k d hd
  rw [Store.cell?_insert] at hd
  split at hd
  · cases hd; rfl
  · exact hs k d hd

theorem of_lends (hs : Unlocked s) (h : Lends [] [] s t) : Unlocked t := by
  intro k d hd
  have hk := h.cell k
  rw [hd] at hk
  generalize hc : s.cell? k = c? at hk
  cases hk with
  | @some c _ hcd =>
      have hl : c.value.locks = {} := hs k c hc
      obtain ⟨-, shared, exclusive, -⟩ := hcd
      rw [hl] at shared exclusive
      exact Locks.ext shared exclusive

end Unlocked

/-- Machines that hosts come to, with their allocations, their writes, the references that they take
and give back, submissions, and calls. -/
inductive Reached : Machine carriers → Prop where
  | start (state : State) : Reached { state }
  | elsewhere {m n : Machine carriers} (reached : Reached m) (same : n.buffers = m.buffers) :
      Reached n
  | allocate {m : Machine carriers} (context : Context) (bytes : Nat) (reached : Reached m) :
      Reached (DeviceBuffer.allocate backend context bytes m).2
  | write {m : Machine carriers} (context : Context) (handle : Handle) (data : List UInt8)
      (reached : Reached m) : Reached (DeviceBuffer.writeBytes backend context handle data m).2
  | retain {m : Machine carriers} (handles : List Handle) (reached : Reached m) :
      Reached (m.retainBuffers handles)
  | release {m : Machine carriers} (handles : List Handle) (reached : Reached m) :
      Reached (m.releaseBuffers handles)
  | submit {m : Machine carriers} (queue : Queue carriers) (e : Executable) (shape : LaunchShape)
      (arguments : List BoundArgument) (reached : Reached m) :
      Reached (submit queue e shape arguments m).2
  | call {m : Machine carriers} (c : Call) (reached : Reached m) : Reached (c.run m).2

theorem allocate_unlocked {m : Machine carriers} (h : Unlocked m.buffers) (context : Context)
    (bytes : Nat) : Unlocked (DeviceBuffer.allocate backend context bytes m).2.buffers := by
  by_cases hr : (bytes + 7) / 8 * 8 ≤ context.capacity
  · rw [DeviceBuffer.allocate_ok (congrArg Outcome.ofExcept (if_pos hr))]
    exact h.insert (.zeroed bytes)
  · rw [DeviceBuffer.allocate_fault (congrArg Outcome.ofExcept (if_neg hr))]
    exact h

theorem write_unlocked {m : Machine carriers} (h : Unlocked m.buffers) (context : Context)
    (handle : Handle) (data : List UInt8) :
    Unlocked (DeviceBuffer.writeBytes backend context handle data m).2.buffers := by
  show Unlocked (Action.bind (DeviceBuffer.allocation handle) _ m).2.buffers
  unfold Action.bind DeviceBuffer.allocation
  cases ha : m.buffers.get? handle with
  | none => exact h
  | some a =>
      show Unlocked (Action.bind (Action.lift (.ofExcept (a.write data))) _ m).2.buffers
      unfold Allocation.write
      split
      · refine h.adjust fun c d hc hd hl => ?_
        rw [Store.get?, hc] at ha
        cases ha
        cases hd
        exact hl
      · exact h

theorem Reached.unlocked {m : Machine carriers} (h : Reached m) : Unlocked m.buffers := by
  induction h with
  | start state => exact .empty
  | elsewhere reached same ih => rw [same]; exact ih
  | allocate context bytes reached ih => exact allocate_unlocked ih context bytes
  | write context handle data reached ih => exact write_unlocked ih context handle data
  | retain handles reached ih => exact ih.retainAll handles
  | release handles reached ih => exact ih.releaseAll handles
  | @submit m queue e shape arguments reached ih =>
      let accepted := { m with state.accepted := m.state.accepted ++ [queue.id] }
      have hl : Lends [] [] m.buffers (execute Handle.index e shape arguments accepted).2.buffers :=
        execute_lends (m := accepted) (.refl m.buffers) _ e shape arguments
      exact (ih.of_lends hl).releaseAll _
  | call c reached ih => exact ih.of_lends (c.run_lends _)

/-! ## Later launches -/

/-- How calls end that are made one after another. -/
def outcomes : List Call → Machine carriers → List (Outcome Error Unit)
  | [], _ => []
  | c :: rest, m => (c.run m).1 :: outcomes rest (c.run m).2

/-- The machine `m`, but with the bytes that its buffers have in `n`. -/
def withBytesOf (m n : Machine carriers) : Machine carriers :=
  { m with
    buffers := ⟨m.buffers.cells.mapIdx fun i cell? => cell?.map fun c =>
      let memory := ((n.buffers.get? ⟨i⟩).map (·.memory)).getD c.value.memory
      { c with value := { c.value with memory } }⟩ }

theorem cell?_withBytesOf (m n : Machine carriers) (h : Handle) :
    (withBytesOf m n).buffers.cell? h = (m.buffers.cell? h).map fun c =>
      let memory := ((n.buffers.get? h).map (·.memory)).getD c.value.memory
      { c with value := { c.value with memory } } := by
  simp only [withBytesOf, Store.cell?, Array.getElem?_mapIdx]
  cases m.buffers.cells[h.index]? <;> rfl

/-- Once everything is given back, only bytes are left to differ. -/
theorem withBytesOf_of_lends {m n : Machine carriers} (h : Lends [] [] m.buffers n.buffers) :
    (withBytesOf m n).buffers = n.buffers := by
  refine Store.ext_cell? ?_ fun k => ?_
  · rw [h.fresh]
    simp only [withBytesOf, Store.fresh, Array.size_mapIdx]
  · have hk := h.cell k
    rw [cell?_withBytesOf, Store.get?]
    generalize m.buffers.cell? k = c?, n.buffers.cell? k = d? at hk
    cases hk with
    | none => rfl
    | @some c d hcd =>
        obtain ⟨refs, shared, exclusive, -⟩ := hcd
        obtain ⟨⟨memory, locks⟩, count, pos⟩ := d
        have hlocks : c.value.locks = locks := Locks.ext shared.symm exclusive.symm
        cases refs
        rw [← hlocks]
        rfl

theorem outcomes_alike {m n : Machine carriers} (h : Alike m n) (calls : List Call) :
    outcomes calls m = outcomes calls n := by
  induction calls generalizing m n with
  | nil => rfl
  | cons c rest ih =>
      have hc : Action.Respects Alike c.run := schedule_respects _ _ _ _
      obtain ⟨hr, hm⟩ := hc m n h
      exact List.cons_eq_cons.mpr ⟨hr, ih hm⟩

/-- After a call, every buffer has the references that it had, and none is locked. While its kernel
runs, each argument that binds a buffer counts for two references more. Calls that follow cannot tell
it from a change of bytes. -/
theorem buffers_returned {m : Machine carriers} (hm : Reached m) (c : Call) :
    (∀ h, (c.run m).2.buffers.refs h = m.buffers.refs h) ∧
    Unlocked (c.run m).2.buffers ∧
    (∀ now, c.Running m now → ∀ h, (m.buffers.get? h).isSome →
      now.buffers.refs h = m.buffers.refs h + 2 * (buffersOf c.arguments).count h) ∧
    ∀ later, outcomes later (c.run m).2 = outcomes later (withBytesOf m (c.run m).2) := by
  have hl := c.run_lends m
  refine ⟨hl.refs_eq, hm.unlocked.of_lends hl, fun now hr h hh => ?_, fun later => ?_⟩
  · obtain ⟨locks, hn⟩ := hr.lends
    rw [hn.refs_add hh, heldBy, List.count_append, Nat.two_mul]
  · exact outcomes_alike ⟨(withBytesOf_of_lends hl).symm, c.run_watched m⟩ later

/-- Locks that are asked for in the order of the addresses are taken in that order. -/
theorem Invocation.bind_ordered {address : Handle → Nat} {arguments : List BoundArgument}
    (ha : aliased? (lockRequests 0 arguments) = none)
    (ho : (lockRequests 0 arguments).Pairwise fun l k => address l.handle ≤ address k.handle) :
    bind address arguments = .ok ⟨lockRequests 0 arguments,
      ((lockRequests 0 arguments).foldl grant (scalarSlots arguments)).filterMap id⟩ := by
  have hs : lockOrder address (lockRequests 0 arguments) = lockRequests 0 arguments :=
    List.mergeSort_of_pairwise (by simpa using ho)
  simp only [bind, ha, hs]

/-! ## A launch that panics -/

/-- Two buffers of one word. -/
def twoWords : Machine carriers :=
  (DeviceBuffer.allocate backend home 4
    (DeviceBuffer.allocate backend home 4 { state := {} }).2).2

/-- Writes a word and panics. -/
def stumbling : Implementation := fun _ => do
  let g ← Procedure.output .u32
  g.store [7]
  .unwind (.raised none)

/-- A call with its second buffer bound twice. -/
def stumble : Call where
  scheduler := .lone
  kernel := { Scheduler.idleKernel with entry := .loaded ⟨"stumble", stumbling, {}⟩ }
  range := Scheduler.fourItems
  arguments := [.buffer ⟨0⟩ .u32 .write, .buffer ⟨1⟩ .u32 .read, .buffer ⟨1⟩ .u32 .read]

theorem buffers_returned_stumble :
    Reached twoWords ∧
      (∃ e, (stumble.run twoWords).1 = .fault e) ∧
      ((stumble.run twoWords).2.buffers.get? ⟨0⟩).map (·.memory.toList) = some [7, 0, 0, 0] ∧
      (∀ h, (stumble.run twoWords).2.buffers.refs h = twoWords.buffers.refs h) ∧
      (∃ now, stumble.Running twoWords now ∧ now.buffers.refs ⟨0⟩ = 3 ∧
        now.buffers.refs ⟨1⟩ = 5) ∧
      outcomes [stumble] (stumble.run twoWords).2 =
        outcomes [stumble] (withBytesOf twoWords (stumble.run twoWords).2) := by
  have hm : Reached twoWords := .allocate home 4 (.allocate home 4 (.start {}))
  have hb : stumble.Begins twoWords ⟨"stumble", stumbling, {}⟩ _ _ :=
    ⟨rfl, rfl, rfl, Invocation.bind_ordered rfl (by decide)⟩
  obtain ⟨refs, -, running, later⟩ := buffers_returned hm stumble
  obtain ⟨now, hr, -⟩ := hb.buffers_eq
  refine ⟨hm, ?_, ?_, refs, ⟨now, hr, ?_, ?_⟩, later [stumble]⟩
  · rw [Call.run_outcome hb.device hb.resolved hb.handed, execute, hb.locked]
    exact ⟨_, rfl⟩
  · rw [Call.run_buffers hb.device hb.resolved hb.handed, execute, hb.locked]
    decide +kernel
  · rw [running now hr ⟨0⟩ (by decide +kernel)]
    decide +kernel
  · rw [running now hr ⟨1⟩ (by decide +kernel)]
    decide +kernel

end Offload.Cpu
