import Offload.Panic

/-!
# Outcomes

An operation returns a value, returns a fault, or unwinds. An action does so while it changes
a state, and what it changed before it failed stays changed.
-/

namespace Offload

/-- How an operation ended. -/
inductive Outcome (ε α : Type) where
  | ok (value : α)
  | fault (cause : ε)
  | unwound (panic : Panic)
  deriving DecidableEq, Repr

namespace Outcome

variable {ε δ α β : Type}

def bind (x : Outcome ε α) (f : α → Outcome ε β) : Outcome ε β :=
  match x with
  | .ok a => f a
  | .fault e => .fault e
  | .unwound p => .unwound p

instance : Monad (Outcome ε) where
  pure := .ok
  bind := bind

section Bind

variable {x : Outcome ε α} {f : α → Outcome ε β}

theorem bind_eq_ok_iff {b : β} : x >>= f = .ok b ↔ ∃ a, x = .ok a ∧ f a = .ok b := by
  cases x <;> simp [Bind.bind, bind]

theorem bind_eq_fault_iff {e : ε} :
    x >>= f = .fault e ↔ x = .fault e ∨ ∃ a, x = .ok a ∧ f a = .fault e := by
  cases x <;> simp [Bind.bind, bind]

theorem bind_eq_unwound_iff {p : Panic} :
    x >>= f = .unwound p ↔ x = .unwound p ∨ ∃ a, x = .ok a ∧ f a = .unwound p := by
  cases x <;> simp [Bind.bind, bind]

end Bind

def mapFault (f : ε → δ) : Outcome ε α → Outcome δ α
  | .ok a => .ok a
  | .fault e => .fault (f e)
  | .unwound p => .unwound p

def ofExcept : Except ε α → Outcome ε α
  | .ok a => .ok a
  | .error e => .fault e

/-- A computation that can only return or unwind. -/
def ofPanicking : Except Panic α → Outcome ε α
  | .ok a => .ok a
  | .error p => .unwound p

/-- The panic that an operation ended with, if it unwound. -/
def panic? : Outcome ε α → Option Panic
  | .ok _ => none
  | .fault _ => none
  | .unwound p => some p

theorem panic?_eq_some_iff {x : Outcome ε α} {p : Panic} : x.panic? = some p ↔ x = .unwound p := by
  cases x <;> simp [panic?]

/-- The outcome of an operation inside a failure boundary: a panic has become a fault. -/
def contain (f : Panic → ε) : Outcome ε α → Except ε α
  | .ok a => .ok a
  | .fault e => .error e
  | .unwound p => .error (f p)

end Outcome

/-- An operation on a state. -/
def Action (σ ε α : Type) : Type := σ → Outcome ε α × σ

namespace Action

variable {σ ε δ α β : Type}

def bind (x : Action σ ε α) (f : α → Action σ ε β) : Action σ ε β := fun s =>
  match x s with
  | (.ok a, s) => f a s
  | (.fault e, s) => (.fault e, s)
  | (.unwound p, s) => (.unwound p, s)

instance : Monad (Action σ ε) where
  pure a := fun s => (.ok a, s)
  bind := bind

/-- An action that comes to a value has come there by each of its parts. -/
theorem bind_eq_ok {x : Action σ ε α} {f : α → Action σ ε β} {s s' : σ} {b : β}
    (h : (x >>= f) s = (.ok b, s')) : ∃ a s₁, x s = (.ok a, s₁) ∧ f a s₁ = (.ok b, s') := by
  change bind x f s = _ at h
  unfold bind at h
  cases hx : x s with
  | mk r s₁ =>
      rw [hx] at h
      cases r with
      | ok a => exact ⟨a, s₁, rfl, h⟩
      | fault e => cases h
      | unwound p => cases h

/-- An outcome that leaves the state alone. -/
def lift (x : Outcome ε α) : Action σ ε α := fun s => (x, s)

def fail (e : ε) : Action σ ε α := lift (.fault e)

def unwind (p : Panic) : Action σ ε α := lift (.unwound p)

def modify (f : σ → σ) : Action σ ε Unit := fun s => (.ok (), f s)

def mapFault (f : ε → δ) (x : Action σ ε α) : Action σ δ α := fun s =>
  let (r, s) := x s
  (r.mapFault f, s)

/-- Runs `cleanup` after `x`, however `x` ends. -/
def ensuring (x : Action σ ε α) (cleanup : σ → σ) : Action σ ε α := fun s =>
  let (r, s) := x s
  (r, cleanup s)

/-- `x` leaves what `f` tells of the state as it is, however `x` ends. -/
def Keeps {γ : Type} (x : Action σ ε α) (f : σ → γ) : Prop :=
  ∀ s, f (x s).2 = f s

section Keeps

variable {γ : Type} {f : σ → γ}

theorem Keeps.pure (a : α) : (Pure.pure a : Action σ ε α).Keeps f := fun _ => rfl

theorem Keeps.lift (r : Outcome ε α) : (lift r : Action σ ε α).Keeps f := fun _ => rfl

theorem Keeps.modify {g : σ → σ} (hg : ∀ s, f (g s) = f s) :
    (modify g : Action σ ε Unit).Keeps f := hg

theorem Keeps.bind {x : Action σ ε α} {g : α → Action σ ε β} (hx : x.Keeps f)
    (hg : ∀ a, (g a).Keeps f) : (x >>= g).Keeps f := by
  intro s
  have hs := hx s
  show f (Action.bind x g s).2 = f s
  unfold Action.bind
  cases hr : x s with
  | mk r s₁ =>
      rw [hr] at hs
      cases r with
      | ok a => exact (hg a s₁).trans hs
      | fault e => exact hs
      | unwound p => exact hs

theorem Keeps.of_eq {x : Action σ ε α} (hx : x.Keeps f) {s s' : σ} {r : Outcome ε α}
    (h : x s = (r, s')) : f s' = f s := by
  have hs := hx s
  rwa [h] at hs

theorem Keeps.mapFault {g : ε → δ} {x : Action σ ε α} (hx : x.Keeps f) :
    (x.mapFault g).Keeps f := hx

end Keeps

end Action

end Offload
