import Offload.Program

/-!
# Kernels

A kernel is one entry point of a program, meant for the device or for the host. It is found when it
is made: in the program's module, or else as a kernel object that each launch resolves.
-/

namespace Offload

/-- Where a kernel is meant to run. -/
inductive Target where
  | device
  | host
  deriving DecidableEq, Repr

def Target.label : Target → String
  | .device => "Device"
  | .host => "Host"

/-- What a launch starts from. -/
inductive KernelEntry (T : Carriers) where
  | loaded (executable : T.Executable)
  | object (kernel : T.Kernel)

/-- An entry point of a program; it owns a reference to the program. -/
structure Kernel (T : Carriers) where
  name : String
  target : Target
  program : Program T
  entry : KernelEntry T

namespace Kernel

variable {T : Carriers} (b : Backend T)

def isFastPath (k : Kernel T) : Bool :=
  match k.entry with
  | .loaded _ => true
  | .object _ => false

/-- Finds the entry point `name` of a program. -/
def findEntry (p : Program T) (name : String) (m : Machine T) : Except StatusCode (KernelEntry T) :=
  match p.module? with
  | some loaded => (b.fastKernel loaded name).map .loaded
  | none => (b.createKernel (Program.object? p.handle m) name).map .object

/-- The kernel `name` of a program. -/
def make (target : Target) (p : Program T) (name : String) :
    Action (Machine T) Error (Kernel T) := fun m =>
  match findEntry b p name m with
  | .ok entry =>
    let (program, m) := p.clone m
    (.ok ⟨name, target, program, entry⟩, m)
  | .error code => (.fault (.compile p.name code), m)

/-- The launchable form of a kernel. One from a module is launchable in every context. -/
def resolve (k : Kernel T) (context : T.Context) : Action (Machine T) T.Fault T.Executable :=
  match k.entry with
  | .loaded executable => return executable
  | .object kernel => b.resolve (some kernel) context

def clone (k : Kernel T) (m : Machine T) : Kernel T × Machine T :=
  let (program, m) := k.program.clone m
  ({ k with program }, m)

def drop (k : Kernel T) (m : Machine T) : Machine T :=
  k.program.drop m

def inspect (k : Kernel T) : String :=
  Text.record "Kernel" [("name", Text.quoted k.name), ("target", k.target.label),
    ("program", Text.quoted k.program.name), ("fast_path", toString k.isFastPath)] false

end Kernel

end Offload
