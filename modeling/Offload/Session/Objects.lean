import Offload.Session.Command
import Offload.Session.Family

/-!
# Objects of a session

A session keeps its objects by name, each kind for itself. It owns the references that they hold:
an object that is replaced or dropped gives its references back, after the new one was made.
-/

namespace Offload.Session

/-- Objects of one kind by name. -/
structure Table (α : Type) where
  entries : List (String × α) := []

namespace Table

variable {α : Type}

def find? (t : Table α) (id : String) : Option α := t.entries.lookup id

def erase (t : Table α) (id : String) : Table α :=
  ⟨t.entries.filter fun entry => entry.1 != id⟩

def put (t : Table α) (id : String) (a : α) : Table α :=
  ⟨(id, a) :: (t.erase id).entries⟩

end Table

/-- Everything a session knows. -/
structure Objects (T : Carriers) where
  machine : Machine T
  contexts : Table T.Context := {}
  executors : Table (Executor T) := {}
  schedulers : Table (Scheduler T) := {}
  programs : Table (Program T) := {}
  kernels : Table (Kernel T) := {}
  natives : Table T.Kernel := {}
  arguments : Table (List Argument) := {}
  buffers : Table DeviceBuffer := {}
  watches : Table Unit := {}
  plan : FaultPlan T.Fault := {}

namespace Objects

variable {T : Carriers}

def onMachine (f : Machine T → Machine T) (o : Objects T) : Objects T :=
  { o with machine := f o.machine }

/-- The reference a kernel object owns. -/
def nativeReference (f : Family T) (k : T.Kernel) : Reference Handle :=
  .ofRaw (f.programOf k)

def dropNative (f : Family T) (k : T.Kernel) (m : Machine T) : Machine T :=
  (nativeReference f k).drop Machine.programKind m

def dropExecutor (e : Executor T) (m : Machine T) : Machine T :=
  (e.cache.clear m).2

def dropArguments (arguments : List Argument) (m : Machine T) : Machine T :=
  m.releaseBuffers (buffersOf arguments)

/-- Gives back the references of an object that may be there. -/
def dropOld {α : Type} (drop : α → Machine T → Machine T) (old? : Option α) (o : Objects T) :
    Objects T :=
  match old? with
  | some old => o.onMachine (drop old)
  | none => o

def putExecutor (id : String) (e : Executor T) (o : Objects T) : Objects T :=
  { o with executors := o.executors.put id e }.dropOld dropExecutor (o.executors.find? id)

def putProgram (id : String) (p : Program T) (o : Objects T) : Objects T :=
  { o with programs := o.programs.put id p }.dropOld Program.drop (o.programs.find? id)

def putKernel (id : String) (k : Kernel T) (o : Objects T) : Objects T :=
  { o with kernels := o.kernels.put id k }.dropOld Kernel.drop (o.kernels.find? id)

def putNative (f : Family T) (id : String) (k : T.Kernel) (o : Objects T) : Objects T :=
  { o with natives := o.natives.put id k }.dropOld (dropNative f) (o.natives.find? id)

def putArguments (id : String) (a : List Argument) (o : Objects T) : Objects T :=
  { o with arguments := o.arguments.put id a }.dropOld dropArguments (o.arguments.find? id)

def putBuffer (id : String) (b : DeviceBuffer) (o : Objects T) : Objects T :=
  { o with buffers := o.buffers.put id b }.dropOld DeviceBuffer.drop (o.buffers.find? id)

/-- How many objects have a name. -/
def countNamed (o : Objects T) (id : String) : Nat :=
  [(o.contexts.find? id).isSome, (o.executors.find? id).isSome, (o.schedulers.find? id).isSome,
    (o.programs.find? id).isSome, (o.kernels.find? id).isSome, (o.natives.find? id).isSome,
    (o.arguments.find? id).isSome, (o.buffers.find? id).isSome,
    (o.watches.find? id).isSome].count true

/-- Drops every object with a name. -/
def dropNamed (f : Family T) (id : String) (o : Objects T) : Objects T :=
  let rest : Objects T := { o with
    contexts := o.contexts.erase id
    executors := o.executors.erase id
    schedulers := o.schedulers.erase id
    programs := o.programs.erase id
    kernels := o.kernels.erase id
    natives := o.natives.erase id
    arguments := o.arguments.erase id
    buffers := o.buffers.erase id
    watches := o.watches.erase id }
  rest.dropOld dropExecutor (o.executors.find? id)
    |>.dropOld Program.drop (o.programs.find? id)
    |>.dropOld Kernel.drop (o.kernels.find? id)
    |>.dropOld (dropNative f) (o.natives.find? id)
    |>.dropOld dropArguments (o.arguments.find? id)
    |>.dropOld DeviceBuffer.drop (o.buffers.find? id)
    |>.dropOld (fun _ => f.unwatch id) (o.watches.find? id)

end Objects

end Offload.Session
