import Offload.Argument
import Offload.LaunchShape
import Offload.Outcome
import Offload.Reference

/-!
# Machines

The state that programs, buffers and launches of one device family live in, and the record of what
happened there.
-/

namespace Offload

/-- Severity of a log event. -/
inductive LogLevel where
  | debug
  | info
  | warn
  | error
  deriving DecidableEq, Repr

namespace LogLevel

def label : LogLevel → String
  | .debug => "DEBUG"
  | .info => "INFO"
  | .warn => "WARN"
  | .error => "ERROR"

end LogLevel

/-- One line of the log. -/
structure LogEvent where
  level : LogLevel
  message : String
  fields : List (String × String)
  deriving DecidableEq, Repr

/-- What a launch let its observers know. -/
inductive TraceEntry where
  | fault (message : String)
  | input (type : ElementType) (elements : List type.Bits)
  | output (type : ElementType) (elements : List type.Bits)
  | scalar (value : Scalar)
  | rewound
  | shape (shape : LaunchShape)
  | itemCount (count : Nat)
  | axisSize (size : Nat)
  | define (value? : Option String)
  | argumentCount (count : Nat)
  | references (count? : Option Nat)
  | submission (executable : String) (arguments : List String) (shape : LaunchShape)

/-- The types a device family works with. -/
structure Carriers where
  /-- What a context is asked for. -/
  Request : Type
  Context : Type
  Device : Type
  /-- Device memory behind one buffer. -/
  Allocation : Type
  Program : Type
  Kernel : Type
  /-- A loaded program binary. -/
  Module : Type
  Executable : Type
  /-- A submission that can be waited for. -/
  Event : Type
  Fault : Type
  /-- What else the devices of the family remember. -/
  State : Type

/-- Outcomes of the launches of one scheduler. -/
structure Tally where
  submitted : Nat := 0
  completed : Nat := 0
  failed : Nat := 0
  rejected : Nat := 0
  deriving DecidableEq, Repr

/-- Everything a device family keeps between operations. -/
structure Machine (T : Carriers) where
  buffers : Store T.Allocation := {}
  programs : Store T.Program := {}
  tallies : Array Tally := #[]
  state : T.State
  /-- Numbers given to contexts and queues so far. -/
  serial : Nat := 0
  log : List LogEvent := []
  trace : List TraceEntry := []

/-- A submission queue of a context. -/
structure Queue (T : Carriers) where
  id : Nat
  context : T.Context

namespace Machine

variable {T : Carriers}

def note (m : Machine T) (level : LogLevel) (message : String)
    (fields : List (String × String)) : Machine T :=
  { m with log := m.log ++ [⟨level, message, fields⟩] }

def record (m : Machine T) (entry : TraceEntry) : Machine T :=
  { m with trace := m.trace ++ [entry] }

/-- A number that was not given before. -/
def number (m : Machine T) : Nat × Machine T :=
  (m.serial, { m with serial := m.serial + 1 })

/-- A queue on `context`. -/
def openQueue (m : Machine T) (context : T.Context) : Queue T × Machine T :=
  (⟨m.serial, context⟩, { m with serial := m.serial + 1 })

/-- Counters of one scheduler. -/
def tally (m : Machine T) (index : Nat) : Tally :=
  m.tallies[index]?.getD {}

def updateTally (m : Machine T) (index : Nat) (f : Tally → Tally) : Machine T :=
  { m with tallies := m.tallies.modify index f }

def openTally (m : Machine T) : Nat × Machine T :=
  (m.tallies.size, { m with tallies := m.tallies.push {} })

def retainBuffers (m : Machine T) (handles : List Handle) : Machine T :=
  { m with buffers := m.buffers.retainAll handles }

def releaseBuffers (m : Machine T) (handles : List Handle) : Machine T :=
  { m with buffers := m.buffers.releaseAll handles }

@[simp] theorem retainBuffers_state (m : Machine T) (handles : List Handle) :
    (m.retainBuffers handles).state = m.state := rfl

@[simp] theorem retainBuffers_tallies (m : Machine T) (handles : List Handle) :
    (m.retainBuffers handles).tallies = m.tallies := rfl

@[simp] theorem releaseBuffers_state (m : Machine T) (handles : List Handle) :
    (m.releaseBuffers handles).state = m.state := rfl

@[simp] theorem releaseBuffers_tallies (m : Machine T) (handles : List Handle) :
    (m.releaseBuffers handles).tallies = m.tallies := rfl

theorem retainBuffers_retainBuffers (m : Machine T) (hs ks : List Handle) :
    (m.retainBuffers hs).retainBuffers ks = m.retainBuffers (hs ++ ks) := by
  simp only [retainBuffers, Store.retainAll_append]

theorem releaseBuffers_releaseBuffers (m : Machine T) (hs ks : List Handle) :
    (m.releaseBuffers hs).releaseBuffers ks = m.releaseBuffers (hs ++ ks) := by
  simp only [releaseBuffers, Store.releaseAll_append]

theorem retainBuffers_perm (m : Machine T) {hs ks : List Handle} (h : hs.Perm ks) :
    m.retainBuffers hs = m.retainBuffers ks := by
  simp only [retainBuffers, m.buffers.retainAll_perm h]

theorem releaseBuffers_perm (m : Machine T) {hs ks : List Handle} (h : hs.Perm ks) :
    m.releaseBuffers hs = m.releaseBuffers ks := by
  simp only [releaseBuffers, m.buffers.releaseAll_perm h]

theorem releaseBuffers_retainBuffers (m : Machine T) (handles : List Handle) :
    (m.retainBuffers handles).releaseBuffers handles = m := by
  simp only [retainBuffers, releaseBuffers, Store.releaseAll_retainAll]

@[simp] theorem updateTally_state (m : Machine T) (index : Nat) (f : Tally → Tally) :
    (m.updateTally index f).state = m.state := rfl

@[simp] theorem note_state (m : Machine T) (level : LogLevel) (message : String)
    (fields : List (String × String)) : (m.note level message fields).state = m.state := rfl

@[simp] theorem note_tallies (m : Machine T) (level : LogLevel) (message : String)
    (fields : List (String × String)) : (m.note level message fields).tallies = m.tallies := rfl

/-- How handles of built programs are counted. -/
def programKind : HandleKind (Machine T) Handle :=
  Store.kind.inside (·.programs) fun m programs => { m with programs }

end Machine

/-- A value together with the log events of computing it. -/
structure Logged (α : Type) where
  value : α
  events : List LogEvent := []

/-- Computes a logged outcome on a machine. -/
def Action.ofLogged {T : Carriers} {ε α : Type} (x : Logged (Outcome ε α)) :
    Action (Machine T) ε α := fun m =>
  (x.value, { m with log := m.log ++ x.events })

end Offload
