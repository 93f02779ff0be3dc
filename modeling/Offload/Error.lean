/-!
# Errors

Status codes of native toolchains, and the errors of the library with their messages.
-/

namespace Offload

/-- Status code of a native toolchain. -/
structure StatusCode where
  value : Int
  deriving DecidableEq, Repr

namespace StatusCode

def success : StatusCode := ⟨0⟩
def outOfHostMemory : StatusCode := ⟨-6⟩
def buildProgramFailure : StatusCode := ⟨-11⟩
def invalidDevice : StatusCode := ⟨-33⟩
def invalidBinary : StatusCode := ⟨-42⟩
def invalidBuildOptions : StatusCode := ⟨-43⟩
def invalidProgram : StatusCode := ⟨-44⟩
def invalidProgramExecutable : StatusCode := ⟨-45⟩
def invalidKernelName : StatusCode := ⟨-46⟩
def invalidKernel : StatusCode := ⟨-48⟩

/-- Symbolic names of the codes that have one. -/
def names : List (StatusCode × String) :=
  [(success, "SUCCESS"),
   (outOfHostMemory, "OUT_OF_HOST_MEMORY"),
   (buildProgramFailure, "BUILD_PROGRAM_FAILURE"),
   (invalidDevice, "INVALID_DEVICE"),
   (invalidBinary, "INVALID_BINARY"),
   (invalidBuildOptions, "INVALID_BUILD_OPTIONS"),
   (invalidProgram, "INVALID_PROGRAM"),
   (invalidProgramExecutable, "INVALID_PROGRAM_EXECUTABLE"),
   (invalidKernelName, "INVALID_KERNEL_NAME"),
   (invalidKernel, "INVALID_KERNEL")]

def name? (c : StatusCode) : Option String :=
  names.lookup c

/-- The name with the number in parentheses, or the number alone. -/
def text (c : StatusCode) : String :=
  match c.name? with
  | some name => s!"{name} ({c.value})"
  | none => toString c.value

end StatusCode

/-- Why an operation of the library failed. -/
inductive Error where
  | compile (program : String) (code : StatusCode)
  | deviceExecution (backend reason : String)
  | methodNotImplemented (method : String)
  | invalidArgument (argument reason : String)
  | outOfMemory (size : Nat)
  | deviceNotFound (backend selector : String)
  | internal (reason : String)
  deriving DecidableEq, Repr

namespace Error

def message : Error → String
  | .compile program code => s!"Failed to compile program '{program}': {code.text}"
  | .deviceExecution backend reason => s!"{backend} device execution error: {reason}"
  | .methodNotImplemented method => s!"Method not implemented: {method}"
  | .invalidArgument argument reason => s!"Invalid argument '{argument}': {reason}"
  | .outOfMemory size => s!"Out of memory: failed to allocate {size} bytes"
  | .deviceNotFound backend selector => s!"No {backend} device matches {selector}"
  | .internal reason => s!"Internal error: {reason}"

/-- Name of the kind of error. -/
def kind : Error → String
  | .compile .. => "Compile"
  | .deviceExecution .. => "DeviceExecution"
  | .methodNotImplemented .. => "MethodNotImplemented"
  | .invalidArgument .. => "InvalidArgument"
  | .outOfMemory .. => "OutOfMemory"
  | .deviceNotFound .. => "DeviceNotFound"
  | .internal .. => "Internal"

end Error

end Offload
