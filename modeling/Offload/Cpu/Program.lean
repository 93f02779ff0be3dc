import Offload.Backend
import Offload.Cpu.Context
import Offload.Source.Linker
import Offload.Text.Encoding

/-!
# Programs of the CPU device

A program is a list of linked kernels. Its binary is a manifest: a header line and the kernel names,
one a line. Loading a manifest links the names again.
-/

namespace Offload.Cpu

/-- A launchable kernel. -/
structure Executable where
  name : String
  code : Implementation
  options : BuildOptions

def Executable.inspect (e : Executable) : String :=
  Text.record "CpuExecutable" [("name", Text.quoted e.name)] false

/-- A built program. -/
structure ProgramObject where
  context : Context
  options : BuildOptions
  kernels : List (String × Implementation)

namespace ProgramObject

def kernelNames (p : ProgramObject) : List String :=
  p.kernels.map (·.1)

def executable? (p : ProgramObject) (name : String) : Option Executable :=
  (p.kernels.lookup name).map fun code => ⟨name, code, p.options⟩

def inspect (p : ProgramObject) : String :=
  Text.record "CpuProgramObject"
    [("kernels", Text.listing (p.kernelNames.map Text.quoted))] false

end ProgramObject

/-- A kernel object: a kernel with the context it can be launched in. -/
structure KernelObject where
  program : Handle
  context : Context
  executable : Executable

/-- A loaded manifest: executables by distinct names. -/
structure LoadedModule where
  kernels : List (String × Executable) := []

namespace LoadedModule

def find? (m : LoadedModule) (name : String) : Option Executable :=
  m.kernels.lookup name

def size (m : LoadedModule) : Nat := m.kernels.length

/-- Adds an executable unless there is one of its name. -/
def insert (m : LoadedModule) (e : Executable) : LoadedModule :=
  if (m.find? e.name).isSome then m else ⟨m.kernels ++ [(e.name, e)]⟩

end LoadedModule

namespace Manifest

/-- First line of every manifest. -/
def header : String := "DALRT-CPU-PROGRAM 1"

def render (names : List String) : String :=
  "\n".intercalate (header :: names)

/-- The names a manifest lists. -/
def parse? (text : String) : Option (List String) :=
  match Text.lines text.toList with
  | [] => none
  | first :: names =>
    if String.ofList first = header then some (names.map String.ofList) else none

/-- Links the names of a manifest; every one has to be known. -/
def link? (registry : Registry) (options : BuildOptions) (names : List String) :
    Option LoadedModule :=
  names.foldlM (fun loaded name => do
    let code ← registry.find? name
    return loaded.insert ⟨name, code, options⟩) {}

end Manifest

/-- Builds a program for a device, which has to be that of the context. -/
def build (context : Context) (device : Device) (source : String) (options : BuildOptions) :
    Logged (Outcome BuildFailure ProgramObject) :=
  if device ≠ context.device then
    { value := .fault { code := .invalidDevice } }
  else
    let linked := Source.link context.registry.find? options.flags source.toList
    if linked.log.errors.isEmpty then
      { value := .ok ⟨context, options, linked.kernels⟩
        events := if linked.log.warnings.isEmpty then [] else
          [⟨.debug, "cpu program built with warnings", [("log", linked.log.render)]⟩] }
    else
      { value := .fault { code := .buildProgramFailure, log? := some linked.log.render } }

/-- The manifest of a program. -/
def binary (program? : Option ProgramObject) : Except StatusCode (List UInt8) :=
  match program? with
  | some p => .ok (Text.toBytes (Manifest.render p.kernelNames))
  | none => .error .invalidProgram

/-- Loads a manifest in a context. -/
def load (context : Context) (bytes : List UInt8) (options : BuildOptions) :
    Except StatusCode LoadedModule :=
  let loaded? := do
    let text ← Text.ofBytes? bytes
    let names ← Manifest.parse? text
    Manifest.link? context.registry options names
  match loaded? with
  | some loaded => .ok loaded
  | none => .error .invalidBinary

/-- A kernel object of a program. -/
def createKernel (program? : Option (Handle × ProgramObject)) (name : String) :
    Except StatusCode KernelObject :=
  match program? with
  | none => .error .invalidProgram
  | some (handle, p) =>
    match p.executable? name with
    | some executable => .ok ⟨handle, p.context, executable⟩
    | none => .error .invalidKernelName

/-- The executable of a loaded kernel. -/
def fastKernel (loaded : LoadedModule) (name : String) : Except StatusCode Executable :=
  match loaded.find? name with
  | some executable => .ok executable
  | none => .error .invalidKernelName

end Offload.Cpu
