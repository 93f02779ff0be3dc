import Offload.Backend
import Offload.Gpu.Platform
import Offload.Text.Encoding

/-!
# Programs of GPU devices

A program is shader text with one constant in front for each definition of the build. Its binary is
that text. A pipeline is made for an entry point when it is first asked for; a loaded binary has all
its pipelines from the start.
-/

namespace Offload.Gpu

/-- A shader that the device of a context has taken. -/
structure ShaderObject extends Interface where
  context : Context
  source : String

/-- What a shader offers is seen in what was made of it. -/
instance : Coe ShaderObject Interface := ⟨ShaderObject.toInterface⟩

/-- What is made of an interface when a device takes its text. -/
def Interface.object (shader : Interface) (context : Context) (source : String) : ShaderObject :=
  { shader with context, source }

namespace ShaderObject

/-- The executable of an entry point, if the device makes a pipeline for it. -/
def executable (s : ShaderObject) (name : String) (workgroup : Axes) : Executable :=
  ⟨s.context, s.source, name, workgroup, s.bindings⟩

/-- The executables of all entry points. -/
def executables (s : ShaderObject) : List Executable :=
  s.entryPoints.map fun e => s.executable e.name e.workgroup

end ShaderObject

/-- A built program. -/
structure ProgramObject where
  shader : ShaderObject
  /-- Entry points that have their pipeline. -/
  pipelines : List String := []

namespace ProgramObject

def context (p : ProgramObject) : Context := p.shader.context

/-- The text that was compiled. -/
def source (p : ProgramObject) : String := p.shader.source

def kernelNames (p : ProgramObject) : List String :=
  p.shader.entryPoints.map (·.name)

def inspect (p : ProgramObject) : String :=
  Text.record "WgpuProgramObject"
    [("kernels", Text.listing (p.kernelNames.map Text.quoted)),
     ("bindings", Text.listing (p.shader.bindings.map (·.inspect)))] false

end ProgramObject

/-- An entry point of a program; the program is looked up at each launch. -/
structure KernelObject where
  program : Handle
  name : String
  workgroup : Axes

def KernelObject.inspect (k : KernelObject) : String :=
  Text.record "WgpuKernelObject"
    [("name", Text.quoted k.name), ("workgroup_size", inspectAxes k.workgroup)] false

/-- A loaded binary: an executable for each entry point. -/
structure LoadedModule where
  executables : List Executable

namespace LoadedModule

def find? (m : LoadedModule) (name : String) : Option Executable :=
  m.executables.find? (·.name == name)

def size (m : LoadedModule) : Nat := m.executables.length

end LoadedModule

/-- A definition as a constant; one without a value is `true`. -/
def constantOf (d : Define) : String :=
  "const " ++ d.name ++ " = " ++ d.value?.getD "true" ++ ";\n"

/-- Constants for the definitions of a build. -/
def definitions (options : BuildOptions) : String :=
  String.join (options.defines.map constantOf)

/-- Why a text is no program. -/
inductive ShaderError where
  | frontEnd (diagnostic : String)
  | interface (cause : InterfaceError)

def ShaderError.message : ShaderError → String
  | .frontEnd diagnostic => diagnostic
  | .interface cause => cause.message

/-- Flags mean nothing to shaders, which is only noted. -/
def flagEvents (options : BuildOptions) : List LogEvent :=
  options.flags.map fun flag =>
    ⟨.debug, "compiler flag has no effect on WGSL builds", [("flag", flag)]⟩

theorem mapError_eq_ok_iff {ε δ α : Type} {result : Except ε α} {f : ε → δ} {a : α} :
    result.mapError f = .ok a ↔ result = .ok a := by
  cases result with
  | error e => constructor <;> (intro h; cases h)
  | ok b => constructor <;> (intro h; cases h; rfl)

namespace Platform

variable (p : Platform)

/-- The interface of a shader text. -/
def analyze (source : String) : Except ShaderError Interface := do
  let parsed ← (p.parse source).mapError .frontEnd
  (Interface.ofModule parsed).mapError .interface

theorem analyze_of_parsed {source : String} {m : Shader.Module} (parsed : p.parse source = .ok m) :
    p.analyze source = (Interface.ofModule m).mapError .interface := by
  rw [analyze, parsed]
  rfl

theorem analyze_eq_ok_iff {source : String} {shader : Interface} :
    p.analyze source = .ok shader ↔
      ∃ m, p.parse source = .ok m ∧ Interface.ofModule m = .ok shader := by
  cases hp : p.parse source with
  | error e =>
      rw [analyze, hp]
      constructor
      · intro h
        cases h
      · rintro ⟨_, h, -⟩
        cases h
  | ok m =>
      rw [p.analyze_of_parsed hp, mapError_eq_ok_iff]
      simp

/-- Makes a shader text and its bindings known to the device of a context. -/
def createShader (context : Context) (source : String) (shader : Interface) :
    Except Panic ShaderObject :=
  if p.takesShader context source shader.bindings then .ok (shader.object context source)
  else .error .validation

def createPipeline (e : Executable) : Except Panic Executable :=
  if p.takesPipeline e then .ok e else .error .validation

/-- Makes every pipeline of a shader. -/
def createPipelines (s : ShaderObject) : Except Panic LoadedModule := do
  return ⟨← s.executables.mapM p.createPipeline⟩

/-- Builds a program for a device, which has to be that of the context. -/
def build (context : Context) (device : Device) (source : String) (options : BuildOptions) :
    Logged (Outcome BuildFailure ProgramObject) :=
  if !device.isSame context.device then
    { value := .fault { code := .invalidDevice } }
  else
    let full := definitions options ++ source
    { events := flagEvents options
      value :=
        match p.analyze full with
        | .error e => .fault { code := .buildProgramFailure, log? := some e.message }
        | .ok shader =>
          match p.createShader context full shader with
          | .error panic => .unwound panic
          | .ok s => .ok ⟨s, []⟩ }

/-- Loads a binary; the definitions of its build are part of it. -/
def load (context : Context) (bytes : List UInt8) : Outcome StatusCode LoadedModule :=
  match Text.ofBytes? bytes with
  | none => .fault .invalidBinary
  | some source =>
    match p.analyze source with
    | .error _ => .fault .invalidBinary
    | .ok shader => .ofPanicking (do p.createPipelines (← p.createShader context source shader))

end Platform

/-- The text of a program. -/
def binary (program? : Option ProgramObject) : Except StatusCode (List UInt8) :=
  match program? with
  | some p => .ok (Text.toBytes p.source)
  | none => .error .invalidProgram

/-- A kernel object of a program. -/
def createKernel (program? : Option (Handle × ProgramObject)) (name : String) :
    Except StatusCode KernelObject :=
  match program? with
  | none => .error .invalidProgram
  | some (handle, p) =>
    match p.shader.entryPoints.find? (·.name == name) with
    | some e => .ok ⟨handle, name, e.workgroup⟩
    | none => .error .invalidKernelName

/-- The executable of a loaded entry point. -/
def fastKernel (loaded : LoadedModule) (name : String) : Except StatusCode Executable :=
  match loaded.find? name with
  | some executable => .ok executable
  | none => .error .invalidKernelName

end Offload.Gpu
