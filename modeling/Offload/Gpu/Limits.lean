import Offload.Gpu.Platform

/-!
# Default limits

Devices with the limits that a context asks for, behind any front end. The only adapter accepts work
and does nothing.
-/

namespace Offload.Gpu

structure Limits where
  workgroups : Nat := usualWorkgroups
  storageBindings : Nat := 8
  uniformBindings : Nat := 12
  bufferSize : Nat := Nat.pow 2 28
  /-- Bytes of a buffer that is bound as storage. -/
  storageSize : Nat := Nat.pow 2 27
  workgroupSize : List Nat := [256, 256, 64]
  workgroupItems : Nat := 256

def limits : Limits := {}

/-- Whether there are not too many bindings of each kind. -/
def fitsBindings (bindings : List BindingKind) : Bool :=
  bindings.countP (·.isStorage) ≤ limits.storageBindings &&
    bindings.countP (!·.isStorage) ≤ limits.uniformBindings

/-- Whether work groups are not too large. -/
def fitsWorkgroup (workgroup : Axes) : Bool :=
  (workgroup.toList.zip limits.workgroupSize).all (fun (size, limit) => size ≤ limit) &&
    workgroup.toList.foldl (· * ·) 1 ≤ limits.workgroupItems

/-- The buffer bound by an argument. -/
def boundBuffer? : BoundArgument → Option Handle
  | .buffer handle _ _ => some handle
  | .scalar _ => none

/-- Whether one buffer is bound to both, of which one may be written and the other is read-only. -/
def conflict (x y : BoundArgument × BindingKind) : Bool :=
  (boundBuffer? x.1).isSome && boundBuffer? x.1 == boundBuffer? y.1 &&
    x.2.isWritable && !y.2.isWritable

/-- What cannot be bound: a buffer of another context, a buffer as a uniform, and one that is too
large. -/
def isRefused (context : Context) (buffers : Store Allocation)
    (x : BoundArgument × BindingKind) : Bool :=
  match boundBuffer? x.1 >>= buffers.get? with
  | some a =>
    !a.owner.isSame context || !x.2.isStorage || decide (limits.storageSize < aligned a.length)
  | none => false

/-- Whether the pipeline is of the context, each buffer can be bound, and none is read-only in one
binding while it may be written in another. -/
def fitsLaunch (context : Context) (buffers : Store Allocation) (e : Executable)
    (arguments : List BoundArgument) : Bool :=
  let bound := arguments.zip e.bindings
  e.context.isSame context && !bound.any (isRefused context buffers) &&
    !bound.any fun x => bound.any (conflict x)

/-- A system with the default limits behind a front end. -/
def Platform.usual (parse : String → Except String Shader.Module)
    (parse_empty : ∀ m, parse "" = .ok m → m.entryPoints = []) : Platform where
  adapters := [⟨"noop wgpu backend", 0, 0, "Noop", 2147483647⟩]
  refusal? _ := none
  parse := parse
  bufferSize := limits.bufferSize
  workgroups := limits.workgroups
  takesShader _ _ := fitsBindings
  takesPipeline e := fitsWorkgroup e.workgroup
  takesLaunch context buffers e _ := fitsLaunch context buffers e
  parse_empty := parse_empty
  bufferSize_lt := by decide
  workgroups_lt := by decide

/-- Reads the shaders of a list, and nothing out of the empty text. -/
def readFrom (shaders : List (String × Shader.Module)) (text : String) :
    Except String Shader.Module :=
  if text = "" then .ok {}
  else
    match shaders.lookup text with
    | some m => .ok m
    | none => .error "error: not a shader of the list"

theorem readFrom_empty (shaders : List (String × Shader.Module)) (m : Shader.Module)
    (h : readFrom shaders "" = .ok m) : m.entryPoints = [] := by
  cases h
  rfl

/-- The usual system for a list of shaders. -/
def Platform.knowing (shaders : List (String × Shader.Module)) : Platform :=
  .usual (readFrom shaders) (readFrom_empty shaders)

theorem Platform.parse_knowing {shaders : List (String × Shader.Module)} {text : String}
    {m : Shader.Module} (known : shaders.lookup text = some m) (filled : text ≠ "") :
    (Platform.knowing shaders).parse text = .ok m := by
  show readFrom shaders text = _
  rw [readFrom, if_neg filled, known]

end Offload.Gpu
