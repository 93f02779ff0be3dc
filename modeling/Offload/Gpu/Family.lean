import Offload.Cpu.Builtin
import Offload.Gpu.Backend
import Offload.Gpu.Limits
import Offload.Session.Family
import Offload.Shader.Check

/-!
# The GPU family

What sessions have to know about the GPU devices of a platform, and the platform that they run on
where none is named. Launches are not counted and not watched.
-/

namespace Offload.Gpu

def Platform.family (p : Platform) : Session.Family carriers where
  backend _ := p.backend
  initial := ()
  source := Cpu.Builtin.source
  programOf := KernelObject.program
  accepted? _ _ := none
  watch _ _ m := m
  unwatch _ m := m
  inspectEvent := Text.record "WgpuEvent" [] true
  inspectQueue _ queue := queue.context.inspectQueue
  inspectContext := Context.inspect
  inspectOffer := Context.inspect
  inspectProgram := ProgramObject.inspect
  inspectAllocation a _ := a.inspect

/-- Reads a shader text, or tells why it is none. -/
def parseShader (text : String) : Except String Shader.Module :=
  (Shader.analyze text.toList).mapError Shader.Rejection.message

theorem parseShader_empty (m : Shader.Module) (h : parseShader "" = .ok m) :
    m.entryPoints = [] := by
  have he : (parseShader "").toOption = some {} := by decide +kernel
  rw [h] at he
  exact congrArg Shader.Module.entryPoints (Option.some.inj he)

/-- The usual devices, which compute with values of 32 bits. -/
def noop : Platform :=
  let usual := Platform.usual parseShader parseShader_empty
  { usual with
    takesShader := fun context text bindings =>
      usual.takesShader context text bindings && !Shader.isWide text.toList }

/-! ## Without a session -/

def family : Session.Family carriers := noop.family

def Device.lookUp (index : Nat) : Except Error Device := noop.lookUp index

def Device.find (vendor device : Nat) : Except Error Device := noop.find vendor device

def Device.isAvailable : Bool := noop.isAvailable

def build (context : Context) (device : Device) (source : String) (options : BuildOptions) :
    Logged (Outcome BuildFailure ProgramObject) :=
  noop.build context device source options

/-- Loads a binary in a context of the first device. -/
def load (bytes : List UInt8) : Outcome StatusCode LoadedModule :=
  noop.load ⟨0, ⟨0, noop.adapters[0]?⟩⟩ bytes

def createPipelines (s : ShaderObject) : Except Panic LoadedModule := noop.createPipelines s

end Offload.Gpu
