import Offload.Cpu.Fault
import Offload.Machine

/-!
# Kernel procedures

A kernel of the CPU device as the tree of what it asks of its launch. A procedure reaches memory
only through its arguments: it asks for them one after another, and stores elements into those that
it was given for writing.
-/

namespace Offload.Cpu

/-- What a kernel is told about its launch. -/
structure Launch where
  shape : LaunchShape
  /-- Value of a macro in the build of the kernel. -/
  define? : String → Option String
  argumentCount : Nat

/-- A request for the next argument. -/
inductive Request where
  | input (type : ElementType)
  | output (type : ElementType)
  | scalar (type : ElementType)
  deriving DecidableEq

/-- A buffer given for writing. -/
structure Granted (t : ElementType) where
  slot : Nat
  elements : List t.Bits

/-- What a request that succeeds gives. -/
abbrev Request.Answer : Request → Type
  | .input t => List t.Bits
  | .output t => Granted t
  | .scalar t => t.Bits

/-- A kernel body that ends in an `α`. -/
inductive Procedure (α : Type) : Type where
  | done (value : α)
  | fail (fault : Fault)
  | unwind (panic : Panic)
  /-- Takes the next argument; a refusal is the kernel's to deal with. -/
  | ask (request : Request) (next : Except Fault request.Answer → Procedure α)
  /-- Replaces the first elements of a buffer that was given for writing. -/
  | store (slot : Nat) (type : ElementType) (values : List type.Bits) (next : Procedure α)
  /-- Goes back to the first argument. -/
  | restart (next : Procedure α)
  /-- Leaves a trace entry. -/
  | record (entry : TraceEntry) (next : Procedure α)
  /-- Looks up how many references a watched buffer has. -/
  | references (name : String) (next : Option Nat → Procedure α)

namespace Procedure

variable {α β : Type}

def bind (p : Procedure α) (f : α → Procedure β) : Procedure β :=
  match p with
  | .done a => f a
  | .fail e => .fail e
  | .unwind p => .unwind p
  | .ask request next => .ask request fun answer => (next answer).bind f
  | .store slot type values next => .store slot type values (next.bind f)
  | .restart next => .restart (next.bind f)
  | .record entry next => .record entry (next.bind f)
  | .references name next => .references name fun count? => (next count?).bind f

instance : Monad Procedure where
  pure := .done
  bind := bind

def lift : Except Panic α → Procedure α
  | .ok a => .done a
  | .error p => .unwind p

/-- The next argument, or the end of the kernel with the fault of the refusal. -/
def request (r : Request) : Procedure r.Answer :=
  .ask r fun
    | .ok answer => .done answer
    | .error e => .fail e

/-- The next argument as a buffer to read. -/
def input (t : ElementType) : Procedure (List t.Bits) := request (.input t)

/-- The next argument as a buffer to write. -/
def output (t : ElementType) : Procedure (Granted t) := request (.output t)

/-- The next argument as a constant. -/
def scalar (t : ElementType) : Procedure t.Bits := request (.scalar t)

/-- Ends the kernel if argument `index` has fewer elements than the launch touches. -/
def ensureLength (index length needed : Nat) : Procedure Unit :=
  if length < needed then .fail (.outOfBounds index length needed) else .done ()

/-- The first `count` elements. -/
def front {β : Type} (elements : List β) (count : Nat) : Procedure (List β) :=
  if elements.length < count then .unwind (.sliceEnd elements.length count)
  else .done (elements.take count)

/-- The end of a kernel that may have come upon a panic. -/
def finish : Option Panic → Procedure Unit
  | some p => .unwind p
  | none => .done ()

end Procedure

/-- Replaces the first elements of a granted buffer. -/
def Granted.store {t : ElementType} (g : Granted t) (values : List t.Bits) : Procedure Unit :=
  .store g.slot t values (.done ())

/-- What a context links a kernel name to. -/
abbrev Implementation : Type := Launch → Procedure Unit

end Offload.Cpu
