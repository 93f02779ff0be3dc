import Offload.Error
import Offload.Word

/-!
# Extents

Iteration ranges of one to three axes, outermost axis first, flat or split into work-groups.
-/

namespace Offload

/-- The most axes a range may have. -/
def maxRank : Nat := 3

/-- Upper bounds of an iteration range, one per axis. -/
structure Extent where
  bounds : List Nat
  rank_pos : 0 < bounds.length
  rank_le : bounds.length ≤ maxRank

namespace Extent

def ofList (bounds : List Nat) : Except Error Extent :=
  if h : 0 < bounds.length ∧ bounds.length ≤ maxRank then
    .ok ⟨bounds, h.1, h.2⟩
  else
    .error (.invalidArgument "range"
      s!"expected 1 to {maxRank} dimensions, got {bounds.length}")

/-- Number of axes. -/
def rank (e : Extent) : Nat := e.bounds.length

/-- Bound of one axis; there is none past the last. -/
def upper (e : Extent) (axis : Nat) : Except Panic Nat :=
  match e.bounds[axis]? with
  | some bound => .ok bound
  | none => .error (.axisOutOfRange axis e.rank)

/-- Number of points. -/
def count (e : Extent) : Except Panic Nat :=
  Word.product e.bounds

/-- Whether the range has no points, told from their number. -/
def isEmpty (e : Extent) : Except Panic Bool := do
  return (← e.count) == 0

end Extent

/-- A range as it is given to a launch. -/
inductive LaunchRange where
  /-- The device chooses the work-groups. -/
  | flat (extent : Extent)
  | tiled (global workgroup : Extent) (same_rank : global.rank = workgroup.rank)

namespace LaunchRange

/-- Splits `global` into work-groups with as many axes. -/
def tile (global workgroup : Extent) : Except Error LaunchRange :=
  if h : global.rank = workgroup.rank then
    .ok (.tiled global workgroup h)
  else
    .error (.invalidArgument "local"
      s!"local range has {workgroup.rank} dimensions but global range has {global.rank}")

/-- Flat without work-group bounds, tiled with them. -/
def ofLists (bounds : List Nat) (workgroup? : Option (List Nat)) : Except Error LaunchRange := do
  let global ← Extent.ofList bounds
  match workgroup? with
  | none => return .flat global
  | some workgroup => tile global (← Extent.ofList workgroup)

def global : LaunchRange → Extent
  | .flat extent => extent
  | .tiled global _ _ => global

def workgroup? : LaunchRange → Option Extent
  | .flat _ => none
  | .tiled _ workgroup _ => some workgroup

def rank (r : LaunchRange) : Nat := r.global.rank

end LaunchRange

end Offload
