import Offload.Reference

/-!
# Handle tables

Native handles as a table of counts. A handle is alive while it is in the table; retaining or
releasing one that is not fails. Each call is written down.
-/

namespace Offload

/-- A call that a table was asked to do. -/
structure CountCall (η : Type) where
  retains : Bool
  raw : η
  succeeded : Bool
  deriving DecidableEq

/-- Counts of the handles that are alive, and the calls so far. -/
structure HandleTable (η : Type) where
  counts : List (η × Nat) := []
  calls : List (CountCall η) := []

namespace HandleTable

variable {η : Type} [DecidableEq η]

def count? (t : HandleTable η) (raw : η) : Option Nat :=
  t.counts.lookup raw

/-- Sets the count of a handle. -/
def set (t : HandleTable η) (raw : η) (count : Nat) : HandleTable η :=
  { t with counts := (raw, count) :: t.counts.filter (·.1 != raw) }

/-- Removes a handle, whatever its count. -/
def destroy (t : HandleTable η) (raw : η) : HandleTable η :=
  { t with counts := t.counts.filter (·.1 != raw) }

def call (t : HandleTable η) (retains : Bool) (raw : η) (succeeded : Bool) : HandleTable η :=
  { t with calls := t.calls ++ [⟨retains, raw, succeeded⟩] }

def retain (raw : η) (t : HandleTable η) : Except StatusCode Unit × HandleTable η :=
  match t.count? raw with
  | some n => (.ok (), (t.set raw (n + 1)).call true raw true)
  | none => (.error .invalidProgram, t.call true raw false)

/-- Takes one off the count; the handle goes with the last one. -/
def release (raw : η) (t : HandleTable η) : Except StatusCode Unit × HandleTable η :=
  match t.count? raw with
  | some n =>
    (.ok (), (if n ≤ 1 then t.destroy raw else t.set raw (n - 1)).call false raw true)
  | none => (.error .invalidKernel, t.call false raw false)

/-- Handles counted by a table. -/
def kind (name : String) : HandleKind (HandleTable η) η where
  name := name
  retain := retain
  release := release

end HandleTable

end Offload
