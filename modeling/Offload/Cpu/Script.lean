import Offload.Cpu.Invocation

/-!
# Scripted kernels

Kernels written as lists of steps. What a step sees goes to the trace, so that a launch can be
followed from outside. Steps that ask for arguments take them one after another; any other step goes
back to the first argument.
-/

namespace Offload.Cpu

/-- One step of a scripted kernel. A lenient request records a refusal and goes on. -/
inductive ScriptStep where
  | input (type : ElementType) (lenient : Bool)
  /-- Sets all elements to one value, then single ones by index. -/
  | output (type : ElementType) (lenient : Bool) (fill? : Option type.Bits)
      (sets : List (Nat × type.Bits))
  | scalar (type : ElementType) (lenient : Bool)
  | rewind
  | shape
  | itemCount
  | axisSize (axis : Nat)
  | define (name : String)
  | argumentCount
  | references (name : String)
  | fault (cause : Fault)
  | panic (payload : Option String)

namespace ScriptStep

/-- Asks for an argument and goes on with it if there is one. -/
def request (r : Request) (lenient : Bool) (use : r.Answer → Procedure Unit) : Procedure Unit :=
  .ask r fun
    | .ok answer => use answer
    | .error e => .record (.fault e.message) (if lenient then .done () else .fail e)

/-- Sets elements one after another; the first index past the end is given instead of the rest. -/
def applySets {α : Type} (elements : List α) : List (Nat × α) → List α × Option Nat
  | [] => (elements, none)
  | (index, value) :: rest =>
    if index < elements.length then applySets (elements.set index value) rest
    else (elements, some index)

/-- Writes what an output step asks for. The trace tells the elements before that. -/
def write {t : ElementType} (g : Granted t) (fill? : Option t.Bits) (sets : List (Nat × t.Bits)) :
    Procedure Unit := do
  let filled := match fill? with
    | some value => List.replicate g.elements.length value
    | none => g.elements
  let (values, past?) := applySets filled sets
  g.store values
  match past? with
  | some index => .unwind (.indexOutOfBounds g.elements.length index)
  | none => .record (.output t g.elements) (.done ())

def run (launch : Launch) : ScriptStep → Procedure Unit
  | .input t lenient =>
    request (.input t) lenient fun elements => .record (.input t elements) (.done ())
  | .output t lenient fill? sets => request (.output t) lenient fun g => write g fill? sets
  | .scalar t lenient =>
    request (.scalar t) lenient fun bits => .record (.scalar ⟨t, bits⟩) (.done ())
  | .rewind => .restart (.record .rewound (.done ()))
  | .shape => .restart (.record (.shape launch.shape) (.done ()))
  | .itemCount => .restart do
    let n ← .lift launch.shape.itemCount
    .record (.itemCount n) (.done ())
  | .axisSize axis => .restart (.record (.axisSize (launch.shape.globalSize axis)) (.done ()))
  | .define name => .restart (.record (.define (launch.define? name)) (.done ()))
  | .argumentCount => .restart (.record (.argumentCount launch.argumentCount) (.done ()))
  | .references name =>
    .restart (.references name fun count? => .record (.references count?) (.done ()))
  | .fault cause => .fail cause
  | .panic payload => .unwind (.raised payload)

end ScriptStep

/-- The kernel that a script describes. -/
def Implementation.ofScript (steps : List ScriptStep) : Implementation := fun launch =>
  steps.forM (·.run launch)

/-- A kernel that does nothing. -/
def Implementation.idle : Implementation := fun _ => .done ()

/-- Buffers watched under a name. -/
def watchedAs (name : String) (m : Machine carriers) : List Handle :=
  (m.state.watched.filter fun entry => entry.1 == name).map fun entry => entry.2

/-- Ends a watch. -/
def unwatch (name : String) (m : Machine carriers) : Machine carriers :=
  let handles := watchedAs name m
  let m := { m with state.watched := m.state.watched.filter fun entry => entry.1 != name }
  m.releaseBuffers handles

/-- Watches a buffer under a name, instead of the one watched so far. The watch owns a reference. -/
def watch (name : String) (handle : Handle) (m : Machine carriers) : Machine carriers :=
  let m := unwatch name (m.retainBuffers [handle])
  { m with state.watched := m.state.watched ++ [(name, handle)] }

end Offload.Cpu
