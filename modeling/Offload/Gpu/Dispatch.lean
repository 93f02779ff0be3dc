import Offload.Gpu.Fault
import Offload.LaunchShape
import Offload.Outcome

/-!
# Dispatches

How many work groups a launch takes on each axis. A flat launch is rounded up to whole groups; a
tiled launch has to name the group size of the shader and to divide evenly.
-/

namespace Offload.Gpu

/-- Items of a group on one axis; a size that is declared as zero counts as one. -/
def groupSize (declared : Axes) (axis : Fin 3) : Nat :=
  max (declared.get axis) 1

/-- Groups on one axis. -/
def groupCount (declared : Axes) (shape : LaunchShape) (axis : Fin 3) : Outcome Fault Nat :=
  let size := groupSize declared axis
  let global := shape.global.get axis
  match shape.workgroup? with
  | none => .ofPanicking (Word.divCeil global size)
  | some workgroup =>
    if workgroup.get axis ≠ size then
      .fault (.workgroupMismatch axis (workgroup.get axis) (declared.get axis))
    else do
      let rest ← .ofPanicking (Word.rem global size)
      if rest ≠ 0 then .fault (.nonUniformRange axis global size)
      else .ofPanicking (Word.div global size)

/-- Groups on one axis, within the limit of the device and as the 32-bit word that it takes. -/
def axisGroups (declared : Axes) (shape : LaunchShape) (limit : Nat) (axis : Fin 3) :
    Outcome Fault Nat := do
  let count ← groupCount declared shape axis
  if limit < count then .fault (.dispatchTooLarge axis count limit)
  else return Word.narrow count

/-- Groups of a launch on each axis, for a shader that declares groups of `declared` items. -/
def dispatchSize (declared : Axes) (shape : LaunchShape) (limit : Nat) : Outcome Fault Axes := do
  let x ← axisGroups declared shape limit 0
  let y ← axisGroups declared shape limit 1
  let z ← axisGroups declared shape limit 2
  return #v[x, y, z]

end Offload.Gpu
