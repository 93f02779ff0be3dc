import Offload.Panic

/-!
# 64-bit words

Sizes are natural numbers below `2 ^ 64`. The operations here unwind where the exact result would
leave that range.
-/

namespace Offload.Word

/-- The number of 64-bit words. -/
def limit : Nat := Nat.pow 2 64

def add (a b : Nat) : Except Panic Nat :=
  if a + b < limit then .ok (a + b) else .error (.overflow .add)

def sub (a b : Nat) : Except Panic Nat :=
  if b ≤ a then .ok (a - b) else .error (.overflow .subtract)

def mul (a b : Nat) : Except Panic Nat :=
  if a * b < limit then .ok (a * b) else .error (.overflow .multiply)

def div (a b : Nat) : Except Panic Nat :=
  if b = 0 then .error .divideByZero else .ok (a / b)

def rem (a b : Nat) : Except Panic Nat :=
  if b = 0 then .error .remainderByZero else .ok (a % b)

/-- Quotient, rounded up. -/
def divCeil (a b : Nat) : Except Panic Nat := do
  let whole ← div a b
  let rest ← rem a b
  if 0 < rest then add whole 1 else return whole

/-- The lowest 32 bits. -/
def narrow (a : Nat) : Nat := a % Nat.pow 2 32

/-- Product taken from the left, starting at one: a zero only stops what comes after it from
overflowing. -/
def product (factors : List Nat) : Except Panic Nat :=
  factors.foldlM mul 1

/-- Product as a value, where overflow is an expected answer. -/
def mul? (a b : Nat) : Option Nat :=
  if a * b < limit then some (a * b) else none

variable {a b : Nat}

theorem add_eq_ok (h : a + b < limit) : add a b = .ok (a + b) :=
  if_pos h

theorem mul_eq_ok (h : a * b < limit) : mul a b = .ok (a * b) :=
  if_pos h

theorem div_eq_ok (hb : 0 < b) : div a b = .ok (a / b) :=
  if_neg (Nat.ne_of_gt hb)

theorem rem_eq_ok (hb : 0 < b) : rem a b = .ok (a % b) :=
  if_neg (Nat.ne_of_gt hb)

/-- Rounding up does not overflow: where there is a rest, the quotient is at most half of a word. -/
theorem divCeil_eq_ok (ha : a < limit) (hb : 0 < b) :
    divCeil a b = .ok (a / b + if 0 < a % b then 1 else 0) := by
  rw [divCeil, div_eq_ok hb, rem_eq_ok hb]
  show (if 0 < a % b then add (a / b) 1 else .ok (a / b)) = _
  split
  · next hr =>
      have hb₂ : 2 ≤ b := by
        have := Nat.mod_lt a hb
        omega
      have hq : a / b ≤ a / 2 := Nat.div_le_div_left hb₂ (by decide)
      have hl : 1 < limit := by decide
      exact add_eq_ok (by omega)
  · rfl

theorem mul?_eq_some_iff {n : Nat} : mul? a b = some n ↔ a * b < limit ∧ a * b = n := by
  unfold mul?
  split
  · next h => exact ⟨fun he => ⟨h, Option.some.inj he⟩, fun he => congrArg some he.2⟩
  · next h => exact ⟨fun he => (nomatch he), fun he => absurd he.1 h⟩

theorem narrow_eq_self (ha : a < Nat.pow 2 32) : narrow a = a :=
  Nat.mod_eq_of_lt ha

end Offload.Word
