import Offload.Element

/-!
# Faults of GPU devices

Why a GPU device cannot be had, or refuses a launch.
-/

namespace Offload.Gpu

inductive Fault where
  | noAdapter
  | device (reason : String)
  | buffer (reason : String)
  /-- The kernel is missing, or was built in another context. -/
  | invalidKernel
  | argumentCount (expected got : Nat)
  /-- The shader may write what the argument does not let it write. -/
  | accessMismatch (index : Nat)
  | unsupportedScalar (index : Nat) (type : ElementType)
  | workgroupMismatch (axis workgroup declared : Nat)
  | nonUniformRange (axis global workgroup : Nat)
  | dispatchTooLarge (axis groups limit : Nat)
  | poll (reason : String)
  deriving DecidableEq, Repr

namespace Fault

def message : Fault → String
  | .noAdapter => "No suitable WebGPU adapter found"
  | .device reason => s!"WebGPU device error: {reason}"
  | .buffer reason => s!"WebGPU buffer error: {reason}"
  | .invalidKernel => "invalid kernel object"
  | .argumentCount expected got =>
    s!"shader declares {expected} bindings, {got} arguments were bound"
  | .accessMismatch index => s!"argument {index} is bound read-only but the shader writes it"
  | .unsupportedScalar index type =>
    s!"argument {index}: scalar type {type.name} is not supported by WGSL"
  | .workgroupMismatch axis workgroup declared =>
    s!"axis {axis}: local size {workgroup} differs from @workgroup_size {declared}"
  | .nonUniformRange axis global workgroup =>
    s!"axis {axis}: global size {global} is not a multiple of local size {workgroup}"
  | .dispatchTooLarge axis groups limit =>
    s!"axis {axis}: {groups} workgroups exceed the device limit of {limit}"
  | .poll reason => s!"WebGPU poll failed: {reason}"

end Fault

end Offload.Gpu
