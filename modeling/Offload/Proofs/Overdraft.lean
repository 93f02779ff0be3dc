import Offload.Proofs.Ownership

/-!
# Retains that fail

A copy is made even if the handle could not be retained for it, and is given back like any other
reference. So the places together give back one reference too many for each retain that failed,
unless they still hold as many.
-/

namespace Offload

variable {σ η : Type} [DecidableEq η]

/-! ## Calls and how they went -/

/-- A native side, with the calls that it got and how they went. -/
structure Recorded (σ η : Type) where
  native : σ
  calls : List (CountCall η) := []

omit [DecidableEq η] in
/-- The same handles, with each call written down. -/
def HandleKind.recorded (k : HandleKind σ η) : HandleKind (Recorded σ η) η where
  name := k.name
  retain raw s :=
    let (r, native) := k.retain raw s.native
    (r, ⟨native, s.calls ++ [⟨true, raw, r.isOk⟩]⟩)
  release raw s :=
    let (r, native) := k.release raw s.native
    (r, ⟨native, s.calls ++ [⟨false, raw, r.isOk⟩]⟩)

omit [DecidableEq η] in
theorem HandleKind.recorded_views (k : HandleKind σ η) : k.recorded.Views k Recorded.native where
  name := rfl
  retain _ _ := rfl
  release _ _ := rfl

def retained (calls : List (CountCall η)) (raw : η) : Nat :=
  calls.countP fun call => call.retains && call.succeeded && call.raw = raw

def refused (calls : List (CountCall η)) (raw : η) : Nat :=
  calls.countP fun call => call.retains && !call.succeeded && call.raw = raw

/-- Releases of a handle, whether or not they succeeded. -/
def released (calls : List (CountCall η)) (raw : η) : Nat :=
  calls.countP fun call => !call.retains && call.raw = raw

section Calls

variable (calls : List (CountCall η)) (raw j : η) (succeeded : Bool)

theorem retained_add_refused_retain :
    retained (calls ++ [⟨true, raw, succeeded⟩]) j + refused (calls ++ [⟨true, raw, succeeded⟩]) j =
      retained calls j + refused calls j + if j = raw then 1 else 0 := by
  simp only [retained, refused, List.countP_append, List.countP_singleton, eq_comm (a := raw)]
  cases succeeded <;> simp <;> omega

theorem released_retain : released (calls ++ [⟨true, raw, succeeded⟩]) j = released calls j := by
  simp [released, List.countP_append]

theorem retained_release : retained (calls ++ [⟨false, raw, succeeded⟩]) j = retained calls j := by
  simp [retained, List.countP_append]

theorem refused_release : refused (calls ++ [⟨false, raw, succeeded⟩]) j = refused calls j := by
  simp [refused, List.countP_append]

theorem released_release :
    released (calls ++ [⟨false, raw, succeeded⟩]) j =
      released calls j + if j = raw then 1 else 0 := by
  simp [released, List.countP_append, List.countP_singleton, eq_comm]

end Calls

/-- Of `received` references and those that were asked for, `n` are left and the others were given
back. -/
def Accounted (received : η → Nat) (s : Recorded σ η) (n : η → Nat) : Prop :=
  ∀ j, n j + released s.calls j = received j + retained s.calls j + refused s.calls j

theorem Accounted.tracks (k : HandleKind σ η) (received : η → Nat) :
    Tracks k.recorded (Accounted (σ := σ) received) where
  retain {s n raw} h _ j := by
    have hj := h j
    have ha := retained_add_refused_retain s.calls raw j (k.retain raw s.native).1.isOk
    show n j + _ + released (s.calls ++ [_]) j =
      received j + retained (s.calls ++ [_]) j + refused (s.calls ++ [_]) j
    rw [released_retain, Nat.add_assoc (received j), ha]
    omega
  release {s n raw} h j := by
    have hj : n j + (if j = raw then 1 else 0) + released s.calls j = _ := h j
    show n j + released (s.calls ++ [_]) j =
      received j + retained (s.calls ++ [_]) j + refused (s.calls ++ [_]) j
    rw [released_release, retained_release, refused_release, ← hj]
    omega

/-! ## Histories -/

/-- Places with their native side, and the references that passed between them and their callers. -/
structure Ledger (σ η : Type) where
  places : Places η := {}
  side : Recorded σ η
  /-- Handed over by callers. -/
  received : List η := []
  /-- Passed to callers. -/
  given : List η := []

namespace Ledger

/-- A command on the places, or whatever others do to the native side meanwhile. -/
inductive Step (k : HandleKind σ η) : Ledger σ η → Ledger σ η → Prop where
  | command {l : Ledger σ η} {result : PlaceResult η} {places : Places η} {side : Recorded σ η}
      (x : PlaceCommand η) (done : l.places.step k.recorded l.side x = some (result, places, side)) :
      Step k l ⟨places, side, x.handed ++ l.received, result.given ++ l.given⟩
  | elsewhere {l : Ledger σ η} (native : σ) : Step k l { l with side := { l.side with native } }

inductive Reached (k : HandleKind σ η) (start : σ) : Ledger σ η → Prop where
  | start : Reached k start { side := { native := start } }
  | step {l l' : Ledger σ η} (run : Reached k start l) (next : Step k l l') : Reached k start l'

section Commands

variable {k : HandleKind σ η} {start : σ} {l : Ledger σ η} {places : Places η} {native : σ}

omit [DecidableEq η]

/-- What a command does to the places and the native side is what it does with nothing written
down. -/
theorem exists_command {result : PlaceResult η} (x : PlaceCommand η)
    (done : l.places.step k l.side.native x = some (result, places, native)) :
    ∃ l', Step k l l' ∧ l'.places = places ∧ l'.side.native = native := by
  rw [← k.recorded_views.step, Option.map_eq_some_iff] at done
  obtain ⟨⟨result', places', side⟩, hs, he⟩ := done
  cases he
  exact ⟨_, .command x hs, rfl, rfl⟩

/-- Every history of commands on the native side itself has a ledger. -/
theorem exists_reached (run : Reached k start l) (commands : List (PlaceCommand η))
    (done : commands.foldlM (fun (at_ : Places η × σ) x =>
      (at_.1.step k at_.2 x).map Prod.snd) (l.places, l.side.native) = some (places, native)) :
    ∃ l', Reached k start l' ∧ l'.places = places ∧ l'.side.native = native := by
  induction commands generalizing l with
  | nil =>
      cases done
      exact ⟨l, run, rfl, rfl⟩
  | cons x rest ih =>
      rw [List.foldlM_cons] at done
      obtain ⟨⟨p, s⟩, hx, done⟩ := Option.bind_eq_some_iff.mp done
      obtain ⟨⟨result, y⟩, hx, rfl⟩ := Option.map_eq_some_iff.mp hx
      obtain ⟨l', next, hp, hn⟩ := exists_command x hx
      rw [← hp, ← hn] at done
      exact ih (run.step next) done

end Commands

/-- References that are held or were given away or back are those that were received or asked for. -/
def Settled (l : Ledger σ η) : Prop :=
  Accounted (fun j => l.received.count j) l.side fun j => l.places.holders j + l.given.count j

variable {k : HandleKind σ η} {start : σ} {l l' : Ledger σ η}

theorem Step.settled (h : l.Settled) (next : Step k l l') : l'.Settled := by
  cases next with
  | command x done =>
      have hx : Accounted (fun j => (x.handed ++ l.received).count j) l.side
          fun j => l.places.holders j + x.handed.count j + l.given.count j := fun j => by
        have := h j
        simp only [List.count_append] at this ⊢
        omega
      refine of_counts (Places.step_tracked (Accounted.tracks k _) hx done) fun j => ?_
      rw [List.count_append, Nat.add_assoc]
  | elsewhere native => exact h

theorem Reached.settled (run : Reached k start l) : l.Settled := by
  induction run with
  | start => exact fun j => rfl
  | step run next ih => exact next.settled ih

/-- At every point, the releases of a handle are covered by the references that the places received
for it and did not give away if and only if the places still hold as many references to it as
retains of it failed. Once the places are dropped, that is if and only if no retain failed. -/
theorem releases_covered_iff (run : Reached k start l) (raw : η) :
    (released l.side.calls raw + l.given.count raw ≤
        l.received.count raw + retained l.side.calls raw ↔
      refused l.side.calls raw ≤ l.places.holders raw) ∧
    let last := (l.places.removeAll k.recorded l.side).calls
    (released last raw + l.given.count raw ≤ l.received.count raw + retained last raw ↔
      refused last raw = 0) := by
  have now := run.settled raw
  have removed := Places.removeAll_tracked (Accounted.tracks k _)
    (n := fun j => l.given.count j) run.settled raw
  simp only at now removed ⊢
  omega

end Ledger

/-- Handles in a table that gives out no further references. -/
def HandleTable.closed (name : String) : HandleKind (HandleTable η) η where
  name := name
  retain _ t := (.error .outOfHostMemory, t)
  release := release

namespace Ledger

/-- A copy without a reference is dropped before the place that it was made from. -/
theorem releases_covered_iff_kept :
    ∃ l, Reached (HandleTable.closed "fake") (HandleTable.set {} 1 2) l ∧
      refused l.side.calls 1 = 1 ∧ l.places.holders 1 = 1 ∧ released l.side.calls 1 = 1 ∧
      released l.side.calls 1 + l.given.count 1 ≤
        l.received.count 1 + retained l.side.calls 1 := by
  have adopted : Reached (HandleTable.closed "fake") (HandleTable.set {} 1 2) _ :=
    Reached.start.step (.command (.adopt "a" 1) rfl)
  have cloned := adopted.step (.command (.clone "b" "a") rfl)
  have dropped := cloned.step (.command (.drop "b") rfl)
  exact ⟨_, dropped, by decide +kernel, by decide +kernel, by decide +kernel,
    (releases_covered_iff dropped 1).1.mpr (by decide +kernel)⟩

/-- Two places are dropped that received one reference; the other reference to the handle, which is not
theirs, goes with them. -/
theorem refused_copy_overdraws :
    let start : HandleTable Nat := HandleTable.set {} 1 2
    ∃ l, Reached (HandleTable.closed "fake") start l ∧ start.count? 1 = some 2 ∧
      l.received.count 1 + retained l.side.calls 1 = 1 ∧
      released l.side.calls 1 + l.given.count 1 = 2 ∧ l.side.native.count? 1 = none := by
  intro start
  have adopted : Reached (HandleTable.closed "fake") start _ :=
    Reached.start.step (.command (.adopt "a" 1) rfl)
  have cloned := adopted.step (.command (.clone "b" "a") rfl)
  have dropped := (cloned.step (.command (.drop "b") rfl)).step (.command (.drop "a") rfl)
  exact ⟨_, dropped, by decide +kernel, by decide +kernel, by decide +kernel, by decide +kernel⟩

end Ledger

end Offload
