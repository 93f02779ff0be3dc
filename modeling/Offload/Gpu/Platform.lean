import Offload.Argument
import Offload.Gpu.Allocation
import Offload.Gpu.Fault
import Offload.Gpu.Interface
import Offload.LaunchShape

/-!
# Platforms

What GPU programs run on: the adapters of a system, a front end that reads shaders, and devices that
take what suits them. What a front end does not read is an error, told as a text. An operation that
offers something else to a device than it takes unwinds.
-/

namespace Offload.Gpu

/-- A launchable entry point: the pipeline that a context has made of a shader text. -/
structure Executable where
  context : Context
  source : String
  name : String
  workgroup : Axes
  bindings : List BindingKind
  deriving DecidableEq

def inspectAxes (axes : Axes) : String :=
  Text.listing (axes.toList.map toString)

def Executable.inspect (e : Executable) : String :=
  Text.record "WgpuExecutable"
    [("name", Text.quoted e.name), ("workgroup_size", inspectAxes e.workgroup)] true

structure Platform where
  /-- Adapters of the system, in the order of their indices. -/
  adapters : List Adapter
  /-- Why the device of an adapter cannot be opened, if it cannot. -/
  refusal? : Adapter → Option String
  /-- Reads and validates the text of a shader. What is wrong with it is told as a text. -/
  parse : String → Except String Shader.Module
  /-- The largest buffer of a device. -/
  bufferSize : Nat
  /-- The most work groups of a launch on one axis. -/
  workgroups : Nat
  /-- Whether the device of a context takes a shader text with these bindings. -/
  takesShader : Context → String → List BindingKind → Bool
  /-- Whether a pipeline can be made. -/
  takesPipeline : Executable → Bool
  /-- Whether the device of a context takes a launch over the buffers there are. -/
  takesLaunch : Context → Store Allocation → Executable → LaunchShape → List BoundArgument → Bool
  /-- The empty text has nothing in it. -/
  parse_empty : ∀ m, parse "" = .ok m → m.entryPoints = []
  /-- Sizes have 64 bits, counts of work groups 32. -/
  bufferSize_lt : bufferSize < Word.limit
  workgroups_lt : workgroups < Nat.pow 2 32

namespace Platform

variable (p : Platform)

/-- The device with an index, its adapter looked up. -/
def lookUp (index : Nat) : Except Error Device :=
  match p.adapters[index]? with
  | some adapter => .ok ⟨index, some adapter⟩
  | none => .error (.deviceNotFound "wgpu" s!"adapter index {index}")

/-- The first device whose adapter has the given vendor and device numbers. -/
def find (vendor device : Nat) : Except Error Device :=
  match p.adapters.findIdx? fun a => a.vendor == vendor && a.device == device with
  | some index => .ok ⟨index, p.adapters[index]?⟩
  | none =>
    .error (.deviceNotFound "wgpu"
      s!"vendor 0x{Text.paddedHex 4 vendor}, device 0x{Text.paddedHex 4 device}")

/-- Whether there is any device. -/
def isAvailable : Bool := (p.lookUp 0).isOk

/-- Looks up the device with an index and opens it. -/
def openDevice (index : Nat) : Except Error Device := do
  let device ← p.lookUp index
  match device.adapter?.bind p.refusal? with
  | some reason => .error (.deviceExecution "wgpu" (Fault.device reason).message)
  | none => return device

end Platform

end Offload.Gpu
