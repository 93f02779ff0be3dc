import Offload.Proofs.Launch

/-!
# What a call is charged

What a call of a scheduler adds to its counters, whatever the device does. No other scheduler's
counters change, and what the device counts by itself goes up with the submissions.
-/

namespace Offload

variable {T : Carriers}

/-! ## Counters of a machine -/

instance : Add Tally where
  add t u := ⟨t.submitted + u.submitted, t.completed + u.completed, t.failed + u.failed,
    t.rejected + u.rejected⟩

namespace Tally

variable (t u : Tally)

@[simp] theorem submitted_add : (t + u).submitted = t.submitted + u.submitted := rfl
@[simp] theorem completed_add : (t + u).completed = t.completed + u.completed := rfl
@[simp] theorem failed_add : (t + u).failed = t.failed + u.failed := rfl
@[simp] theorem rejected_add : (t + u).rejected = t.rejected + u.rejected := rfl

theorem add_assoc (v : Tally) : t + u + v = t + (u + v) := by
  show Tally.mk _ _ _ _ = Tally.mk _ _ _ _
  simp [Nat.add_assoc]

end Tally

namespace Machine

theorem tally_eq_of_tallies {m m' : Machine T} (h : m'.tallies = m.tallies) (i : Nat) :
    m'.tally i = m.tally i := by
  simp only [tally, h]

theorem tally_updateTally_self {m : Machine T} {i : Nat} {f : Tally → Tally}
    (h : i < m.tallies.size) : (m.updateTally i f).tally i = f (m.tally i) := by
  simp [tally, updateTally, Array.getElem_modify, h]

theorem tally_updateTally_ne {m : Machine T} {i j : Nat} {f : Tally → Tally} (h : j ≠ i) :
    (m.updateTally i f).tally j = m.tally j := by
  simp [tally, updateTally, Array.getElem?_modify, h.symm]

theorem tally_openTally_lt {m : Machine T} {i : Nat} (h : i < m.tallies.size) :
    m.openTally.2.tally i = m.tally i := by
  simp [tally, openTally, Array.getElem?_push, Nat.ne_of_lt h]

theorem tally_openTally_self (m : Machine T) : m.openTally.2.tally m.tallies.size = {} := by
  simp [tally, openTally]

/-- From `m` to `m'`, one scheduler's counters went up by `δ` and no other's changed. -/
structure Charged (index : Nat) (δ : Tally) (m m' : Machine T) : Prop where
  size_eq : m'.tallies.size = m.tallies.size
  self_eq : m'.tally index = m.tally index + δ
  other_eq : ∀ i, i ≠ index → m'.tally i = m.tally i

theorem Charged.free {index : Nat} {m m' : Machine T} (h : m'.tallies = m.tallies) :
    Charged index {} m m' :=
  ⟨by rw [h], tally_eq_of_tallies h index, fun i _ => tally_eq_of_tallies h i⟩

theorem Charged.update {index : Nat} {δ : Tally} {m : Machine T} {f : Tally → Tally}
    (hi : index < m.tallies.size) (hf : ∀ t, f t = t + δ) :
    Charged index δ m (m.updateTally index f) :=
  ⟨by simp [updateTally], (tally_updateTally_self hi).trans (hf _),
    fun _ h => tally_updateTally_ne h⟩

theorem Charged.trans {index : Nat} {δ ε : Tally} {m m' m'' : Machine T}
    (h : Charged index δ m m') (h' : Charged index ε m' m'') : Charged index (δ + ε) m m'' where
  size_eq := h'.size_eq.trans h.size_eq
  self_eq := by rw [h'.self_eq, h.self_eq, Tally.add_assoc]
  other_eq i hi := (h'.other_eq i hi).trans (h.other_eq i hi)

theorem Charged.of_tallies_eq {index : Nat} {δ : Tally} {m m' m'' : Machine T}
    (h : Charged index δ m m') (h' : m''.tallies = m'.tallies) : Charged index δ m m'' where
  size_eq := by rw [h', h.size_eq]
  self_eq := (tally_eq_of_tallies h' index).trans h.self_eq
  other_eq i hi := (tally_eq_of_tallies h' i).trans (h.other_eq i hi)

end Machine

/-! ## One call -/

/-- What a call with a target and an outcome may add to the counters. -/
inductive Charge : Target → Outcome Error Unit → Tally → Prop where
  | rejected {e} : Charge .host (.fault e) { rejected := 1 }
  | completed : Charge .device (.ok ()) { submitted := 1, completed := 1 }
  | refused {e} : Charge .device (.fault e) { failed := 1 }
  | failed {e} : Charge .device (.fault e) { submitted := 1, failed := 1 }
  | unwound {p} : Charge .device (.unwound p) {}

/-- How many launches a device can have accepted when a launch ended so. -/
inductive Submits : Outcome Error Unit → Nat → Prop where
  | completed : Submits (.ok ()) 1
  | refused {e} : Submits (.fault e) 0
  | failed {e} : Submits (.fault e) 1
  | unwound {p} : Submits (.unwound p) 0

theorem Submits.of_settled {T : Carriers} {b : Backend T} {r : Outcome T.Fault Unit}
    {outcome : Outcome Error Unit} (h : b.settled r = outcome) : Submits outcome 1 := by
  cases outcome with
  | ok u => exact .completed
  | fault e => exact .failed
  | unwound p => exact absurd h Backend.settled_ne_unwound

/-- `count` goes up by `weight` with every launch that a queue accepts, and with nothing else. -/
structure Backend.Counts (b : Backend T) (count : T.State → Nat) (weight : Queue T → Nat) :
    Prop where
  resolve_keeps : ∀ kernel? context,
    (b.resolve kernel? context).Keeps fun m => count m.state
  submit_ok : ∀ {queue executable shape bound m event m'},
    b.submit queue executable shape bound m = (.ok event, m') →
      count m'.state = count m.state + weight queue
  submit_fault : ∀ {queue executable shape bound m f m'},
    b.submit queue executable shape bound m = (.fault f, m') → count m'.state = count m.state
  submit_unwound : ∀ {queue executable shape bound m p m'},
    b.submit queue executable shape bound m = (.unwound p, m') → count m'.state = count m.state
  wait_keeps : ∀ event, (b.wait event).Keeps fun m => count m.state
  synchronize_keeps : ∀ queue, (b.synchronize queue).Keeps fun m => count m.state

/-- Every device counts nothing in particular. -/
theorem Backend.counts_zero (b : Backend T) : b.Counts (fun _ => 0) fun _ => 0 where
  resolve_keeps _ _ _ := rfl
  submit_ok _ := rfl
  submit_fault _ := rfl
  submit_unwound _ := rfl
  wait_keeps _ _ := rfl
  synchronize_keeps _ _ := rfl

namespace Scheduler

variable {b : Backend T} {count : T.State → Nat} {weight : Queue T → Nat} {s : Scheduler T}
  {k : Kernel T} {range : LaunchRange} {arguments : List Argument} {m : Machine T}

/-- A launch adds to the counters of its own scheduler no more than its submission, which the device
counts too. -/
theorem launch_charged (hc : b.Counts count weight) (hs : s.tally < m.tallies.size)
    {outcome : Outcome Error Unit} {m' : Machine T}
    (h : Launched b s k range arguments m outcome m') :
    ∃ n, Submits outcome n ∧ m.Charged s.tally { submitted := n } m' ∧
      count m'.state = count m.state + n * weight s.queue := by
  have hr {r m₁} (h : k.resolve b s.queue.context m = (r, m₁)) :
      m₁.tallies = m.tallies ∧ count m₁.state = count m.state :=
    ⟨(k.resolve_keeps b.resolve_keeps _).of_eq h, (k.resolve_keeps hc.resolve_keeps _).of_eq h⟩
  cases h with
  | resolveFault resolved =>
      exact ⟨0, .refused, .free (hr resolved).1, by simp [hr resolved]⟩
  | resolveUnwound resolved =>
      exact ⟨0, .unwound, .free (hr resolved).1, by simp [hr resolved]⟩
  | bindUnwound resolved _ =>
      exact ⟨0, .unwound, .free (hr resolved).1, by simp [hr resolved]⟩
  | submitFault resolved _ submitted =>
      have ht := (b.submit_keeps _ _ _ _).of_eq submitted
      have hn := (hc.submit_fault submitted).trans (hr resolved).2
      exact ⟨0, .refused, .free (ht.trans (hr resolved).1), by simpa using hn⟩
  | submitUnwound resolved _ submitted =>
      have ht := (b.submit_keeps _ _ _ _).of_eq submitted
      have hn := (hc.submit_unwound submitted).trans (hr resolved).2
      exact ⟨0, .refused, .free (ht.trans (hr resolved).1), by simpa using hn⟩
  | @waited executable m₁ bound event m₂ r m₃ _ resolved _ submitted ended settled =>
      -- The one case in which the device has accepted the launch.
      have ht : m₂.tallies = m.tallies :=
        ((b.submit_keeps _ _ _ _).of_eq submitted).trans (hr resolved).1
      have hw : m₃.tallies = (m₂.updateTally s.tally Tally.submit).tallies :=
        (b.wait_keeps event).of_eq ended
      have hn : count m₃.state = count (m₂.updateTally s.tally Tally.submit).state :=
        (hc.wait_keeps event).of_eq ended
      refine ⟨1, .of_settled settled, ?_, ?_⟩
      · have h₁ : m.Charged s.tally {} m₂ := .free ht
        have h₂ : m₂.Charged s.tally { submitted := 1 } (m₂.updateTally s.tally Tally.submit) :=
          .update (by rw [ht]; exact hs) fun _ => rfl
        exact (h₁.trans h₂).of_tallies_eq hw
      · have hm : count m₂.state = count (m₁.retainBuffers (heldBy arguments)).state +
            weight s.queue := hc.submit_ok submitted
        rw [Machine.releaseBuffers_state, hn, Machine.updateTally_state, hm,
          Machine.retainBuffers_state, (hr resolved).2, Nat.one_mul]

theorem schedule_charged (hc : b.Counts count weight) (hs : s.tally < m.tallies.size)
    (k : Kernel T) (range : LaunchRange) (arguments : List Argument) :
    ∃ δ, Charge k.target (s.schedule b k range arguments m).1 δ ∧
      m.Charged s.tally δ (s.schedule b k range arguments m).2 ∧
      count (s.schedule b k range arguments m).2.state =
        count m.state + δ.submitted * weight s.queue := by
  cases hk : k.target with
  | host =>
      rw [schedule_host b s range arguments m hk]
      have h₁ : m.Charged s.tally { rejected := 1 } (m.updateTally s.tally Tally.reject) :=
        .update hs fun _ => rfl
      exact ⟨_, .rejected, h₁.of_tallies_eq rfl, by simp⟩
  | device =>
      rw [schedule_device b s range arguments m hk]
      have hl := launch_launched b s k range arguments m
      generalize (s.launch b k range arguments m).1 = outcome at hl ⊢
      generalize (s.launch b k range arguments m).2 = m₁ at hl ⊢
      obtain ⟨n, hsub, hm, hn⟩ := launch_charged hc hs hl
      have hs₁ : s.tally < m₁.tallies.size := by rw [hm.size_eq]; exact hs
      have hfail : m₁.Charged s.tally { failed := 1 } (m₁.updateTally s.tally Tally.fail) :=
        .update hs₁ fun _ => rfl
      cases hsub with
      | completed =>
          have h₂ : m₁.Charged s.tally { completed := 1 } (m₁.updateTally s.tally Tally.complete) :=
            .update hs₁ fun _ => rfl
          exact ⟨_, .completed, hm.trans h₂, hn⟩
      | refused => exact ⟨_, .refused, (hm.trans hfail).of_tallies_eq rfl, hn⟩
      | failed => exact ⟨_, .failed, (hm.trans hfail).of_tallies_eq rfl, hn⟩
      | unwound => exact ⟨_, .unwound, hm, hn⟩

/-- A call that unwinds leaves every counter as it was. -/
theorem schedule_unwound_tallies {p : Panic}
    (h : (s.schedule b k range arguments m).1 = .unwound p) :
    (s.schedule b k range arguments m).2.tallies = m.tallies := by
  cases hk : k.target with
  | host => rw [schedule_host b s range arguments m hk] at h; cases h
  | device =>
      rw [schedule_device b s range arguments m hk] at h ⊢
      have hl := launch_launched b s k range arguments m
      generalize (s.launch b k range arguments m).2 = m₁ at hl ⊢
      rw [h] at hl ⊢
      cases hl with
      | resolveUnwound resolved => exact (k.resolve_keeps b.resolve_keeps _).of_eq resolved
      | bindUnwound resolved _ => exact (k.resolve_keeps b.resolve_keeps _).of_eq resolved
      | waited _ _ _ _ settled => exact absurd settled Backend.settled_ne_unwound

end Scheduler

/-! ## Balanced counters -/

/-- A call that was made: what it was for, and how it ended. -/
structure Call where
  target : Target
  outcome : Outcome Error Unit

namespace Call

def isReturned (c : Call) : Bool :=
  match c.outcome with
  | .unwound _ => false
  | _ => true

def isOk (c : Call) : Bool := c.outcome == .ok ()

def isForHost (c : Call) : Bool := c.target == .host

end Call

/-- Counters that agree with the calls made so far. -/
structure Balanced (t : Tally) (calls : List Call) : Prop where
  returned : t.completed + t.failed + t.rejected = calls.countP Call.isReturned
  completed : t.completed = calls.countP Call.isOk
  rejected : t.rejected = calls.countP Call.isForHost
  completed_le : t.completed ≤ t.submitted
  submitted_le : t.submitted ≤ t.completed + t.failed

theorem Balanced.nil : Balanced {} [] := ⟨rfl, rfl, rfl, Nat.le_refl _, Nat.le_refl _⟩

theorem Balanced.append {t δ : Tally} {calls : List Call} {c : Call} (h : Balanced t calls)
    (hc : Charge c.target c.outcome δ) : Balanced (t + δ) (calls ++ [c]) := by
  obtain ⟨returned, completed, rejected, completed_le, submitted_le⟩ := h
  obtain ⟨target, outcome⟩ := c
  cases hc <;> constructor <;>
    simp [List.countP_append, Call.isReturned, Call.isOk, Call.isForHost] <;> omega

end Offload
