import Mathlib.Algebra.Ring.Nat
import Offload.Cpu.Backend
import Offload.DeviceBuffer
import Offload.Proofs.Charge
import Offload.Proofs.Containment

/-!
# Accounting of schedulers

How the counters stand after any use of any number of schedulers: they agree with the calls made so
far. The launches that a CPU queue has accepted are those that the schedulers on it count as
submitted.
-/

namespace Offload

variable {T : Carriers}

/-! ## Any use of any schedulers -/

/-- What can be done with queues, schedulers and buffers. -/
inductive Use (T : Carriers) where
  /-- A scheduler with counters of its own. -/
  | openScheduler (queue : Queue T) (order : AxisOrder)
  /-- A call of a scheduler, by its place among those opened. A clone is the same value. -/
  | schedule (place : Nat) (kernel : Kernel T) (range : LaunchRange) (arguments : List Argument)
  | synchronize (queue : Queue T)
  | read (context : T.Context) (handle : Handle) (count : Nat)
  | write (context : T.Context) (handle : Handle) (bytes : List UInt8)

/-- A machine, the schedulers opened on it and their calls, each with the index of its counters. -/
structure Usage (T : Carriers) where
  machine : Machine T
  schedulers : List (Scheduler T) := []
  calls : List (Nat × Call) := []

namespace Usage

/-- Calls of a scheduler and its clones. -/
def callsOf (u : Usage T) (s : Scheduler T) : List Call :=
  (u.calls.filter (·.1 == s.tally)).map (·.2)

def step (b : Backend T) (u : Usage T) : Use T → Usage T
  | .openScheduler queue order =>
    let (s, machine) := Scheduler.make queue order u.machine
    { u with machine, schedulers := u.schedulers ++ [s] }
  | .schedule place k range arguments =>
    match u.schedulers[place]? with
    | none => u
    | some s =>
      let (outcome, machine) := s.schedule b k range arguments u.machine
      { u with machine, calls := u.calls ++ [(s.tally, ⟨k.target, outcome⟩)] }
  | .synchronize queue => { u with machine := (b.synchronize queue u.machine).2 }
  | .read context handle count =>
    { u with machine := (DeviceBuffer.readBytes b context handle count u.machine).2 }
  | .write context handle bytes =>
    { u with machine := (DeviceBuffer.writeBytes b context handle bytes u.machine).2 }

def run (b : Backend T) (u : Usage T) (uses : List (Use T)) : Usage T :=
  uses.foldl (step b) u

/-- Submissions of all schedulers, each with the weight of its queue. -/
def submitted (weight : Queue T → Nat) (u : Usage T) : Nat :=
  (u.schedulers.map fun s => (u.machine.tally s.tally).submitted * weight s.queue).sum

/-- What every use preserves. -/
structure Accounted (count : T.State → Nat) (weight : Queue T → Nat) (start : Nat)
    (u : Usage T) : Prop where
  tally_lt : ∀ s ∈ u.schedulers, s.tally < u.machine.tallies.size
  call_lt : ∀ c ∈ u.calls, c.1 < u.machine.tallies.size
  distinct : (u.schedulers.map (·.tally)).Nodup
  balanced : ∀ s ∈ u.schedulers, Balanced (u.machine.tally s.tally) (u.callsOf s)
  counted : count u.machine.state = start + u.submitted weight

variable {b : Backend T} {count : T.State → Nat} {weight : Queue T → Nat} {start : Nat}
  {u : Usage T}

theorem Accounted.quiet (h : u.Accounted count weight start) {m : Machine T}
    (ht : m.tallies = u.machine.tallies) (hn : count m.state = count u.machine.state) :
    Accounted count weight start { u with machine := m } where
  tally_lt := by rw [ht]; exact h.tally_lt
  call_lt := by rw [ht]; exact h.call_lt
  distinct := h.distinct
  balanced s hs := by
    rw [Machine.tally_eq_of_tallies ht]
    exact h.balanced s hs
  counted := by
    simp only [submitted, Machine.tally_eq_of_tallies ht]
    exact hn.trans h.counted

theorem Accounted.openScheduler (h : u.Accounted count weight start) (queue : Queue T)
    (order : AxisOrder) : (u.step b (.openScheduler queue order)).Accounted count weight start := by
  let new : Scheduler T := ⟨queue, order, u.machine.tallies.size⟩
  let m : Machine T := u.machine.openTally.2
  have hsize : m.tallies.size = u.machine.tallies.size + 1 := Array.size_push _
  have hnew : m.tally new.tally = {} := u.machine.tally_openTally_self
  have hold : ∀ s ∈ u.schedulers, m.tally s.tally = u.machine.tally s.tally :=
    fun s hs => Machine.tally_openTally_lt (h.tally_lt s hs)
  show Accounted count weight start { u with machine := m, schedulers := u.schedulers ++ [new] }
  refine ⟨?_, ?_, ?_, ?_, ?_⟩
  · intro s hs
    rw [hsize]
    rcases List.mem_append.mp hs with hs | hs
    · exact Nat.lt_succ_of_lt (h.tally_lt s hs)
    · cases List.mem_singleton.mp hs; exact Nat.lt_succ_self _
  · intro c hc
    rw [hsize]
    exact Nat.lt_succ_of_lt (h.call_lt c hc)
  · rw [List.map_append, List.nodup_append]
    refine ⟨h.distinct, by simp, ?_⟩
    intro i hi j hj
    obtain ⟨s, hs, rfl⟩ := List.mem_map.mp hi
    cases List.mem_singleton.mp hj
    exact Nat.ne_of_lt (h.tally_lt s hs)
  · intro s hs
    rcases List.mem_append.mp hs with hs | hs
    · rw [hold s hs]; exact h.balanced s hs
    · cases List.mem_singleton.mp hs
      have hnone : u.calls.filter (·.1 == new.tally) = [] := by
        rw [List.filter_eq_nil_iff]
        intro c hc
        simpa using Nat.ne_of_lt (h.call_lt c hc)
      simp only [hnew, callsOf, hnone]
      exact .nil
  · have hmap : (u.schedulers.map fun s => (m.tally s.tally).submitted * weight s.queue) =
        u.schedulers.map fun s => (u.machine.tally s.tally).submitted * weight s.queue :=
      List.map_congr_left fun s hs => by rw [hold s hs]
    have hn : count m.state = start +
        (u.schedulers.map fun s => (u.machine.tally s.tally).submitted * weight s.queue).sum :=
      h.counted
    simp only [submitted, List.map_append, hmap, List.sum_append, List.map_cons, hnew]
    simpa using hn

theorem callsOf_append (u : Usage T) (m : Machine T) (index : Nat) (c : Call) (s : Scheduler T) :
    callsOf { u with machine := m, calls := u.calls ++ [(index, c)] } s =
      u.callsOf s ++ if s.tally = index then [c] else [] := by
  by_cases h : s.tally = index
  · simp [callsOf, h]
  · simp [callsOf, h, Ne.symm h]

/-- One summand went up by `d`, the others stand under other keys. -/
theorem sum_map_raise {α : Type} {l : List α} {f g key : α → Nat} {d : Nat} {x : α}
    (hx : x ∈ l) (hl : (l.map key).Nodup) (hg : g x = f x + d)
    (hother : ∀ y, key y ≠ key x → g y = f y) : (l.map g).sum = (l.map f).sum + d := by
  induction l with
  | nil => cases hx
  | cons y l ih =>
      rw [List.map_cons, List.nodup_cons] at hl
      simp only [List.map_cons, List.sum_cons]
      rcases List.mem_cons.mp hx with rfl | hx
      · have hrest : l.map g = l.map f :=
          List.map_congr_left fun z hz => hother z fun he =>
            hl.1 (he ▸ List.mem_map_of_mem hz)
        rw [hrest, hg]
        omega
      · have hy : key y ≠ key x := fun he => hl.1 (he ▸ List.mem_map_of_mem hx)
        rw [hother y hy, ih hx hl.2]
        omega

theorem Accounted.schedule (hc : b.Counts count weight) (h : u.Accounted count weight start)
    (place : Nat) (k : Kernel T) (range : LaunchRange) (arguments : List Argument) :
    (u.step b (.schedule place k range arguments)).Accounted count weight start := by
  simp only [step]
  cases hp : u.schedulers[place]? with
  | none => exact h
  | some s =>
      have hs : s ∈ u.schedulers := List.mem_of_getElem? hp
      obtain ⟨δ, hcharge, hm, hn⟩ :=
        Scheduler.schedule_charged hc (h.tally_lt s hs) k range arguments
      simp only
      generalize (s.schedule b k range arguments u.machine).1 = outcome at hcharge ⊢
      generalize (s.schedule b k range arguments u.machine).2 = m at hm hn ⊢
      refine ⟨?_, ?_, h.distinct, ?_, ?_⟩
      · rw [hm.size_eq]; exact h.tally_lt
      · intro c hc
        rw [hm.size_eq]
        rcases List.mem_append.mp hc with hc | hc
        · exact h.call_lt c hc
        · cases List.mem_singleton.mp hc; exact h.tally_lt s hs
      · intro s' hs'
        have hb := h.balanced s' hs'
        rw [callsOf_append]
        by_cases he : s'.tally = s.tally
        · rw [if_pos he]
          rw [he] at hb ⊢
          rw [hm.self_eq]
          exact hb.append hcharge
        · rw [if_neg he, List.append_nil]
          rw [hm.other_eq _ he]
          exact hb
      · have hsum := sum_map_raise (f := fun s => (u.machine.tally s.tally).submitted * weight s.queue)
          (g := fun s => (m.tally s.tally).submitted * weight s.queue)
          (d := δ.submitted * weight s.queue) hs h.distinct
          (by simp only [hm.self_eq, Tally.submitted_add, Nat.add_mul])
          (fun s' he => by simp only [hm.other_eq _ he])
        show count m.state = start +
          (u.schedulers.map fun s => (m.tally s.tally).submitted * weight s.queue).sum
        rw [hsum, hn, h.counted]
        exact Nat.add_assoc _ _ _

theorem readBytes_keeps {γ : Type} {f : Machine T → γ} (b : Backend T) (context : T.Context)
    (handle : Handle) (size : Nat) : (DeviceBuffer.readBytes b context handle size).Keeps f := by
  refine .bind ?_ fun _ => .lift _
  intro m
  unfold DeviceBuffer.allocation
  split <;> rfl

/-- A write changes no more than buffers. -/
theorem writeBytes_keeps {γ : Type} {f : Machine T → γ} (b : Backend T) (context : T.Context)
    (handle : Handle) (bytes : List UInt8) (hf : ∀ m buffers, f { m with buffers } = f m) :
    (DeviceBuffer.writeBytes b context handle bytes).Keeps f := by
  refine .bind ?_ fun _ => .bind (.lift _) fun _ => .modify fun m => hf m _
  intro m
  unfold DeviceBuffer.allocation
  split <;> rfl

theorem Accounted.step (hc : b.Counts count weight) (h : u.Accounted count weight start)
    (use : Use T) : (u.step b use).Accounted count weight start := by
  cases use with
  | openScheduler queue order => exact h.openScheduler queue order
  | schedule place k range arguments => exact h.schedule hc place k range arguments
  | synchronize queue =>
      exact h.quiet (b.synchronize_keeps queue _) (hc.synchronize_keeps queue _)
  | read context handle size =>
      exact h.quiet (readBytes_keeps (f := (·.tallies)) b context handle size _)
        (readBytes_keeps (f := fun m => count m.state) b context handle size _)
  | write context handle bytes =>
      exact h.quiet
        (writeBytes_keeps (f := (·.tallies)) b context handle bytes (fun _ _ => rfl) _)
        (writeBytes_keeps (f := fun m => count m.state) b context handle bytes (fun _ _ => rfl) _)

theorem Accounted.run (hc : b.Counts count weight) (uses : List (Use T))
    (h : u.Accounted count weight start) : (u.run b uses).Accounted count weight start := by
  induction uses generalizing u with
  | nil => exact h
  | cons use rest ih => exact ih (h.step hc use)

theorem accounted_start (count : T.State → Nat) (weight : Queue T → Nat) (m : Machine T) :
    Accounted count weight (count m.state) { machine := m } where
  tally_lt := by simp
  call_lt := by simp
  distinct := .nil
  balanced := by simp
  counted := rfl

end Usage

/-! ## Queues of the CPU device -/

/-- A queue counts the launches that it was given itself. -/
theorem Cpu.backend_counts (queue : Queue Cpu.carriers) :
    Cpu.backend.Counts (fun state => state.accepted.count queue.id)
      fun q => if q.id = queue.id then 1 else 0 where
  resolve_keeps kernel? context := Cpu.resolve_keeps kernel? context
  submit_ok {q e shape bound m event m'} h := by
    have hs := Cpu.submit_state q e shape bound m
    rw [show Cpu.submit q e shape bound m = _ from h] at hs
    have ha : m'.state.accepted = m.state.accepted ++ [q.id] := congrArg (·.accepted) hs
    rw [ha, List.count_append, List.count_singleton]
    simp only [beq_iff_eq]
  submit_fault {q e shape bound m f m'} h := by
    obtain ⟨r, hr⟩ := Cpu.submit_fst q e shape bound m
    rw [show Cpu.submit q e shape bound m = _ from h] at hr
    cases hr
  submit_unwound {q e shape bound m p m'} h := by
    obtain ⟨r, hr⟩ := Cpu.submit_fst q e shape bound m
    rw [show Cpu.submit q e shape bound m = _ from h] at hr
    cases hr
  wait_keeps _ := .lift _
  synchronize_keeps _ := .pure _

namespace Usage

theorem submitted_eq_sum_filter (u : Usage T) (p : Queue T → Bool) :
    u.submitted (fun q => if p q then 1 else 0) =
      ((u.schedulers.filter fun s => p s.queue).map fun s =>
        (u.machine.tally s.tally).submitted).sum := by
  unfold submitted
  induction u.schedulers with
  | nil => rfl
  | cons s rest ih =>
      rw [List.map_cons, List.sum_cons, ih, List.filter_cons]
      by_cases hp : p s.queue = true
      · simp only [if_pos hp, List.map_cons, List.sum_cons, Nat.mul_one]
      · simp only [if_neg hp, Nat.mul_zero, Nat.zero_add]

/-- However schedulers are used, their counters agree with their calls, and a call that unwinds
changes none. What a CPU queue has accepted goes up by what its schedulers have submitted, and not
with waiting, reading or writing. -/
theorem counters_agree (b : Backend T) (m : Machine T) (uses : List (Use T))
    (n : Machine Cpu.carriers) (deeds : List (Use Cpu.carriers)) (queue : Queue Cpu.carriers) :
    (∀ u, u = run b { machine := m } uses →
      (∀ s ∈ u.schedulers, Balanced (u.machine.tally s.tally) (u.callsOf s)) ∧
      ∀ s k range arguments p, (Scheduler.schedule b s k range arguments u.machine).1 = .unwound p →
        (s.schedule b k range arguments u.machine).2.tallies = u.machine.tallies) ∧
    (∀ u, u = run Cpu.backend { machine := n } deeds →
      Cpu.acceptedBy u.machine queue = Cpu.acceptedBy n queue +
        ((u.schedulers.filter (·.queue.id == queue.id)).map fun s =>
          (u.machine.tally s.tally).submitted).sum) ∧
    (∀ q, (Cpu.backend.synchronize q).Keeps (Cpu.acceptedBy · queue)) ∧
    (∀ context handle size, (DeviceBuffer.readBytes Cpu.backend context handle size).Keeps
      (Cpu.acceptedBy · queue)) ∧
    ∀ context handle bytes, (DeviceBuffer.writeBytes Cpu.backend context handle bytes).Keeps
      (Cpu.acceptedBy · queue) := by
  refine ⟨?_, ?_, fun q => .pure _, fun context handle size => readBytes_keeps _ context handle size,
    fun context handle bytes => writeBytes_keeps _ context handle bytes fun _ _ => rfl⟩
  · rintro u rfl
    have h := (accounted_start (fun _ => 0) (fun _ => 0) m).run b.counts_zero uses
    exact ⟨h.balanced, fun s k range arguments p => Scheduler.schedule_unwound_tallies⟩
  · rintro u rfl
    have hc : Cpu.backend.Counts (fun state => state.accepted.count queue.id)
        fun q => if q.id == queue.id then 1 else 0 := by
      simpa only [beq_iff_eq] using Cpu.backend_counts queue
    have h := ((accounted_start _ _ n).run hc deeds).counted
    rw [submitted_eq_sum_filter] at h
    exact h

/-- Two schedulers on one queue. The calls of the first return, unwind and are turned away. -/
def mixed : List (Use Cpu.carriers) :=
  [.openScheduler Scheduler.lone.queue .declared, .openScheduler Scheduler.lone.queue .declared,
    .schedule 0 Scheduler.idleKernel Scheduler.fourItems [],
    .schedule 0 Scheduler.idleKernel Scheduler.fourItems [.localMemory .i32 8],
    .schedule 0 { Scheduler.idleKernel with target := .host } Scheduler.fourItems [],
    .schedule 1 Scheduler.idleKernel Scheduler.fourItems []]

theorem counters_agree_mixed :
    let u := run Cpu.backend { machine := { state := {} } } mixed
    u.machine.tallies = #[⟨1, 1, 0, 1⟩, ⟨1, 1, 0, 0⟩] ∧ u.calls.length = 4 ∧
      (∀ s ∈ u.schedulers, Balanced (u.machine.tally s.tally) (u.callsOf s)) ∧
      Cpu.acceptedBy u.machine Scheduler.lone.queue =
        ((u.schedulers.filter (·.queue.id == 0)).map fun s =>
          (u.machine.tally s.tally).submitted).sum := by
  have h := counters_agree Cpu.backend { state := {} } mixed { state := {} } mixed
    Scheduler.lone.queue
  refine ⟨by decide +kernel, by decide +kernel, (h.1 _ rfl).1, ?_⟩
  rw [h.2.1 _ rfl]
  exact Nat.zero_add _

end Usage

end Offload
