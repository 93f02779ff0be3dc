import Offload.Cpu.Builtin
import Offload.Word

/-!
# CPU devices and contexts

A device is told from others by its number. A context belongs to one device and holds the kernels
that programs built in it are linked to.
-/

namespace Offload.Cpu

structure Device where
  id : Nat := 0
  deriving DecidableEq, Repr

namespace Device

def name (d : Device) : String := s!"cpu:{d.id}"

def inspect (d : Device) : String :=
  Text.record "CpuDevice" [("id", toString d.id)] false

end Device

/-- Kernels by name, in the order of their names. -/
structure Registry where
  entries : List (String × Implementation) := []

namespace Registry

/-- Puts a kernel in its place, instead of one of the same name. -/
def insertEntry (name : String) (kernel : Implementation) :
    List (String × Implementation) → List (String × Implementation)
  | [] => [(name, kernel)]
  | entry :: rest =>
    if name = entry.1 then (name, kernel) :: rest
    else if name < entry.1 then (name, kernel) :: entry :: rest
    else entry :: insertEntry name kernel rest

def insert (r : Registry) (name : String) (kernel : Implementation) : Registry :=
  ⟨insertEntry name kernel r.entries⟩

def ofList (kernels : List (String × Implementation)) : Registry :=
  kernels.foldl (fun r (name, kernel) => r.insert name kernel) {}

def find? (r : Registry) (name : String) : Option Implementation :=
  r.entries.lookup name

def contains (r : Registry) (name : String) : Bool :=
  (r.find? name).isSome

def size (r : Registry) : Nat := r.entries.length

def inspect (r : Registry) : String :=
  Text.record "KernelRegistry"
    [("kernels", Text.listing (r.entries.map fun entry => Text.quoted entry.1))] false

end Registry

/-- Bytes that are granted to one allocation where nothing else is said. -/
def usualCapacity : Fin Word.limit := ⟨Nat.pow 2 38, by decide⟩

/-- A context; its number tells it from others with the same content. -/
structure Context where
  id : Nat
  device : Device
  registry : Registry
  /-- The most bytes that the system grants to one allocation. -/
  capacity : Fin Word.limit

namespace Context

def isSame (c d : Context) : Bool := c.id == d.id

def inspect (c : Context) : String :=
  Text.record "CpuContext"
    [("device", c.device.inspect), ("kernels", toString c.registry.size)] false

end Context

/-- What a context is asked for. -/
structure ContextRequest where
  device : Device := {}
  /-- Start from the builtin kernels. -/
  builtins : Bool := true
  /-- Kernels that are registered after those. -/
  kernels : List (String × Implementation) := []
  capacity : Fin Word.limit := usualCapacity

/-- The context with a number that meets a request. -/
def ContextRequest.context (r : ContextRequest) (id : Nat) : Context :=
  ⟨id, r.device, .ofList ((if r.builtins then Builtin.all else []) ++ r.kernels), r.capacity⟩

end Offload.Cpu
