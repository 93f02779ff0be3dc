import Offload.Backend

/-!
# Programs

A program is built once from source text for one device. With the fast path on, its binary is also
loaded into a module, from which kernels are taken directly.
-/

namespace Offload

/-- A built program; it owns one reference to its handle. -/
structure Program (T : Carriers) where
  name : String
  handle : Reference Handle
  module? : Option T.Module

namespace Program

variable {T : Carriers} (b : Backend T)

/-- What a handle refers to. -/
def object? (handle : Reference Handle) (m : Machine T) : Option (Handle × T.Program) := do
  let h ← handle.raw?
  let object ← m.programs.get? h
  return (h, object)

/-- Reports a build log, as a warning if the options ask for it. -/
def reportLog (name : String) (options : BuildOptions) (failure : BuildFailure) (m : Machine T) :
    Machine T :=
  match failure.log? with
  | none => m
  | some log =>
    m.note (if options.verbose then .warn else .debug) ("failed to build program, log:\n" ++ log)
      [("runtime", b.name), ("program", name), ("code", failure.code.text)]

/-- Builds a program and hands out the first reference to it. -/
def buildHandle (context : T.Context) (device : T.Device) (name source : String)
    (options : BuildOptions) : Action (Machine T) StatusCode Handle := fun m =>
  match Action.ofLogged (b.build context device source options) m with
  | (.ok object, m) =>
    let (handle, programs) := m.programs.insert object
    (.ok handle, { m with programs })
  | (.fault failure, m) => (.fault failure.code, reportLog b name options failure m)
  | (.unwound p, m) => (.unwound p, m)

/-- Loads the binary of a program. An empty binary is no binary. -/
def loadModule (context : T.Context) (options : BuildOptions) (handle : Reference Handle) :
    Action (Machine T) StatusCode T.Module := fun m =>
  match b.binary ((object? handle m).map (·.2)) with
  | .error code => (.fault code, m)
  | .ok [] => (.fault .invalidBinary, m)
  | .ok bytes => Action.ofLogged (b.load context bytes options) m

/-- The module that the options ask for, if they do. -/
def fastModule (context : T.Context) (options : BuildOptions) (handle : Reference Handle) :
    Action (Machine T) StatusCode (Option T.Module) :=
  if options.fastPath then do
    return some (← loadModule b context options handle)
  else
    return none

/-- Builds a program. One that fails after its handle was made gives the handle back. -/
def compile (context : T.Context) (device : T.Device) (name source : String)
    (options : BuildOptions) : Action (Machine T) Error (Program T) :=
  .mapFault (.compile name) do
    let raw ← buildHandle b context device name source options
    let handle := Reference.ofRaw raw
    fun m =>
      match fastModule b context options handle m with
      | (.ok module?, m) =>
        (.ok ⟨name, handle, module?⟩, m.note .debug "program built" [("runtime", b.name),
          ("program", name), ("fast_path", toString module?.isSome)])
      | (.fault code, m) => (.fault code, handle.drop Machine.programKind m)
      | (.unwound p, m) => (.unwound p, handle.drop Machine.programKind m)

/-- Builds a program with an options text. -/
def compileText (context : T.Context) (device : T.Device) (name source options : String) :
    Action (Machine T) Error (Program T) :=
  match BuildOptions.parse options with
  | .ok options => compile b context device name source options
  | .error e => do
    Action.modify fun m =>
      m.note .debug "rejected build options" [("program", name), ("reason", e.message)]
    Action.fail (.compile name .invalidBuildOptions)

def clone (p : Program T) (m : Machine T) : Program T × Machine T :=
  let (handle, m) := p.handle.clone Machine.programKind m
  ({ p with handle }, m)

def drop (p : Program T) (m : Machine T) : Machine T :=
  p.handle.drop Machine.programKind m

def inspect (p : Program T) : String :=
  Text.record "Program" [("runtime", Text.quoted b.name), ("name", Text.quoted p.name),
    ("fast_path", toString p.module?.isSome)] false

end Program

end Offload
