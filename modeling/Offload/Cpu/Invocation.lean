import Offload.Cpu.Allocation
import Offload.Cpu.Program

/-!
# Invocations

One launch on the CPU device. Binding checks that no buffer written by one argument is bound to
another, locks the buffers in the order of their addresses, and gives each argument its slot. The
kernel procedure then runs on the slots.
-/

namespace Offload.Cpu

/-- What the CPU device remembers besides memory and programs. -/
structure State where
  /-- The queue of each launch accepted so far. -/
  accepted : List Nat := []
  /-- Buffers whose references kernels can look up. -/
  watched : List (String × Handle) := []

/-- The types of the CPU device. -/
abbrev carriers : Carriers where
  Request := ContextRequest
  Context := Context
  Device := Device
  Allocation := Allocation
  Program := ProgramObject
  Kernel := KernelObject
  Module := LoadedModule
  Executable := Executable
  Event := Except Fault Unit
  Fault := Fault
  State := State

/-- An argument as a running kernel has it. -/
inductive Slot where
  | shared (handle : Handle) (type : ElementType)
  | exclusive (handle : Handle) (type : ElementType)
  | scalar (value : Scalar)
  deriving DecidableEq

/-- A lock that a launch takes for one of its arguments. -/
structure LockRequest where
  index : Nat
  handle : Handle
  type : ElementType
  exclusively : Bool
  deriving DecidableEq

namespace LockRequest

def slot (l : LockRequest) : Slot :=
  if l.exclusively then .exclusive l.handle l.type else .shared l.handle l.type

end LockRequest

namespace Invocation

/-- The locks that arguments need, in argument order, the first one having number `index`. -/
def lockRequests (index : Nat) : List BoundArgument → List LockRequest
  | [] => []
  | .buffer handle type access :: rest =>
    ⟨index, handle, type, access.writes⟩ :: lockRequests (index + 1) rest
  | .scalar _ :: rest => lockRequests (index + 1) rest

/-- Whether two locks cannot be held by one launch. -/
def conflict (l k : LockRequest) : Bool :=
  l.handle == k.handle && (l.exclusively || k.exclusively)

/-- The first argument that conflicts with a later one. -/
def aliased? : List LockRequest → Option Nat
  | [] => none
  | l :: rest => if rest.any (conflict l) then some l.index else aliased? rest

/-- Lock requests in the order in which they are granted. -/
def lockOrder (address : Handle → Nat) (requests : List LockRequest) : List LockRequest :=
  requests.mergeSort fun l k => address l.handle ≤ address k.handle

/-- The slots after the lock of one argument is granted. -/
def grant (slots : List (Option Slot)) (l : LockRequest) : List (Option Slot) :=
  slots.set l.index (some l.slot)

/-- Slots before any lock is granted. -/
def scalarSlots (arguments : List BoundArgument) : List (Option Slot) :=
  arguments.map fun
    | .buffer .. => none
    | .scalar value => some (.scalar value)

/-- A launch whose buffers are to be locked, in this order. -/
structure Bound where
  locks : List LockRequest
  slots : List Slot

/-- Pairs each argument with its slot, unless arguments alias. -/
def bind (address : Handle → Nat) (arguments : List BoundArgument) : Except Fault Bound :=
  let requests := lockRequests 0 arguments
  match aliased? requests with
  | some index => .error (.bufferAliasing index)
  | none =>
    let locks := lockOrder address requests
    .ok ⟨locks, (locks.foldl grant (scalarSlots arguments)).filterMap id⟩

/-- Locks an allocation for one argument. -/
def acquire (buffers : Store Allocation) (l : LockRequest) : Store Allocation :=
  buffers.update l.handle fun a => { a with locks := a.locks.acquire l.exclusively }

def release (buffers : Store Allocation) (l : LockRequest) : Store Allocation :=
  buffers.update l.handle fun a => { a with locks := a.locks.release l.exclusively }

end Invocation

/-- The whole elements behind a handle. -/
def elementsOf (buffers : Store Allocation) (handle : Handle) (t : ElementType) : List t.Bits :=
  match buffers.get? handle with
  | some a => a.memory.elements t
  | none => []

/-- A request for a buffer of type `got`. -/
def checkType (index : Nat) (expected got : ElementType) : Except Fault Unit :=
  if got = expected then .ok () else .error (.argumentType index expected got)

/-- What slot `index` answers to a request: kind and access are checked before the type. -/
def Slot.answer (buffers : Store Allocation) (index : Nat) (slot : Slot) :
    (r : Request) → Except Fault r.Answer
  | .input t =>
    match slot with
    | .shared handle type | .exclusive handle type => do
      checkType index t type
      return elementsOf buffers handle t
    | .scalar _ => .error (.argumentKind index "buffer")
  | .output t =>
    match slot with
    | .exclusive handle type => do
      checkType index t type
      return ⟨index, elementsOf buffers handle t⟩
    | .shared .. => .error (.readOnly index)
    | .scalar _ => .error (.argumentKind index "buffer")
  | .scalar t =>
    match slot with
    | .scalar value =>
      match value.get? t with
      | some bits => .ok bits
      | none => .error (.argumentType index t value.type)
    | _ => .error (.argumentKind index "scalar")

/-- Stores elements into an argument, if it is a buffer of their type that was bound for writing. -/
def Slot.store (buffers : Store Allocation) (t : ElementType) (values : List t.Bits) :
    Slot → Store Allocation
  | .exclusive handle type =>
    if type = t then
      buffers.update handle fun a => { a with memory := a.memory.store t values }
    else buffers
  | _ => buffers

/-- References to the buffer watched under a name. -/
def watchedRefs? (m : Machine carriers) (name : String) : Option Nat :=
  (m.state.watched.lookup name).map m.buffers.refs

/-- Runs a procedure on its slots; `cursor` is the next argument to be handed out. A request past
the last argument does not move it. -/
def Procedure.run {α : Type} (slots : List Slot) :
    Procedure α → Nat → Action (Machine carriers) Fault α
  | .done a, _ => fun m => (.ok a, m)
  | .fail e, _ => fun m => (.fault e, m)
  | .unwind p, _ => fun m => (.unwound p, m)
  | .ask request next, cursor => fun m =>
    match slots[cursor]? with
    | some slot => (next (slot.answer m.buffers cursor request)).run slots (cursor + 1) m
    | none => (next (.error (.missingArgument cursor slots.length))).run slots cursor m
  | .store index t values next, cursor => fun m =>
    match slots[index]? with
    | some slot =>
      next.run slots cursor { m with buffers := slot.store m.buffers t values }
    | none => next.run slots cursor m
  | .restart next, _ => fun m => next.run slots 0 m
  | .record entry next, cursor => fun m => next.run slots cursor (m.record entry)
  | .references name next, cursor => fun m => (next (watchedRefs? m name)).run slots cursor m

/-- Runs a launch with its buffers locked. A panic of the kernel is a fault of the launch. -/
def runBound (e : Executable) (shape : LaunchShape) (bound : Invocation.Bound)
    (m : Machine carriers) : Except Fault Unit × Machine carriers :=
  let m := { m with buffers := bound.locks.foldl Invocation.acquire m.buffers }
  let launch : Launch := ⟨shape, e.options.defineValue?, bound.slots.length⟩
  let (r, m) := (e.code launch).run bound.slots 0 m
  let m := { m with buffers := bound.locks.foldl Invocation.release m.buffers }
  (r.contain fun p => .panicked p.report, m)

/-- Binds and runs a launch. -/
def execute (address : Handle → Nat) (e : Executable) (shape : LaunchShape)
    (arguments : List BoundArgument) (m : Machine carriers) :
    Except Fault Unit × Machine carriers :=
  match Invocation.bind address arguments with
  | .error fault => (.error fault, m)
  | .ok bound => runBound e shape bound m

section Keeps

variable {α γ : Type} {f : Machine carriers → γ}
  (hb : ∀ m buffers, f { m with buffers } = f m) (hr : ∀ m entry, f (Machine.record m entry) = f m)

include hb hr

/-- A procedure changes no more than buffers and the trace. -/
theorem Procedure.run_keeps (slots : List Slot) (p : Procedure α) (cursor : Nat) :
    (p.run slots cursor).Keeps f := by
  induction p generalizing cursor with
  | done a => exact fun _ => rfl
  | fail e => exact fun _ => rfl
  | unwind p => exact fun _ => rfl
  | ask request next ih =>
      intro m
      simp only [Procedure.run]
      cases slots[cursor]? with
      | some slot => exact ih _ _ m
      | none => exact ih _ _ m
  | store index t values next ih =>
      intro m
      simp only [Procedure.run]
      cases slots[index]? with
      | some slot => exact (ih _ _).trans (hb m _)
      | none => exact ih _ m
  | restart next ih => exact ih 0
  | record entry next ih => exact fun m => (ih _ _).trans (hr m entry)
  | references name next ih => exact fun m => ih _ _ m

theorem runBound_keeps (e : Executable) (shape : LaunchShape) (bound : Invocation.Bound)
    (m : Machine carriers) : f (runBound e shape bound m).2 = f m := by
  unfold runBound
  exact (hb _ _).trans ((Procedure.run_keeps hb hr _ _ _ _).trans (hb _ _))

theorem execute_keeps (address : Handle → Nat) (e : Executable) (shape : LaunchShape)
    (arguments : List BoundArgument) (m : Machine carriers) :
    f (execute address e shape arguments m).2 = f m := by
  unfold execute
  cases Invocation.bind address arguments with
  | error fault => rfl
  | ok bound => exact runBound_keeps hb hr e shape bound m

end Keeps

end Offload.Cpu
