import Offload.Extent

/-!
# Launch shapes

A range in the axis order of a device, padded to three axes. Both parts of a tiled range take their
bounds from the same axes, so global and work-group bounds stay paired.
-/

namespace Offload

/-- Which declared axis a device walks first. -/
inductive AxisOrder where
  | declared
  | reversed
  deriving DecidableEq, Repr

namespace AxisOrder

/-- The declared axis behind a native axis, in a device form of `rank` axes. -/
def axis (order : AxisOrder) (rank native : Nat) : Nat :=
  match order with
  | .declared => native
  | .reversed => rank - 1 - native

def label : AxisOrder → String
  | .declared => "Declared"
  | .reversed => "Reversed"

end AxisOrder

/-- Three bounds in native axis order. -/
abbrev Axes : Type := Vector Nat 3

/-- The first three bounds, with ones for those that are missing. -/
def Axes.ofList (bounds : List Nat) : Axes :=
  Vector.ofFn fun axis => bounds[axis.val]?.getD 1

/-- Geometry of one launch as a device sees it. -/
structure LaunchShape where
  rank : Nat
  global : Axes
  workgroup? : Option Axes
  deriving DecidableEq

namespace LaunchShape

/-- Number of work items. -/
def itemCount (s : LaunchShape) : Except Panic Nat :=
  Word.product s.global.toList

/-- Global bound of a native axis, one for an axis there is not. -/
def globalSize (s : LaunchShape) (axis : Nat) : Nat :=
  s.global.toList[axis]?.getD 1

end LaunchShape

/-- Bounds in native order, for a device form of `rank` axes. -/
def Extent.native (e : Extent) (order : AxisOrder) (rank : Nat) : Except Panic (List Nat) :=
  if e.rank = rank then (List.range rank).mapM fun native => e.upper (order.axis rank native)
  else .error .rankMismatch

/-- The shape of a range in the device form of `rank` axes. -/
def LaunchRange.shapeAs (r : LaunchRange) (order : AxisOrder) (rank : Nat) :
    Except Panic LaunchShape := do
  let global ← r.global.native order rank
  let workgroup? ← r.workgroup?.mapM (·.native order rank)
  return ⟨rank, .ofList global, workgroup?.map .ofList⟩

/-- The shape of a range in the device form of its own rank. -/
def LaunchRange.shape (r : LaunchRange) (order : AxisOrder) : Except Panic LaunchShape :=
  match r.rank with
  | 1 => r.shapeAs order 1
  | 2 => r.shapeAs order 2
  | 3 => r.shapeAs order 3
  | rank => .error (.unreachableRank rank)

end Offload
