import Offload.Backend

/-!
# Device buffers

Typed buffers on a device. A buffer owns one reference to its allocation, which several buffers of
different element types may share.
-/

namespace Offload

/-- `length` elements of device memory. -/
structure DeviceBuffer where
  handle : Handle
  type : ElementType
  length : Nat
  deriving DecidableEq

namespace DeviceBuffer

variable {T : Carriers} (b : Backend T)

/-- The allocation behind a handle. Operations take handles that are alive. -/
def allocation (handle : Handle) : Action (Machine T) Error T.Allocation := fun m =>
  match m.buffers.get? handle with
  | some a => (.ok a, m)
  | none => (.fault (.internal "buffer is gone"), m)

/-- Allocates zeroed memory and returns the only reference to it. -/
def allocate (context : T.Context) (bytes : Nat) : Action (Machine T) Error Handle := do
  let a ← Action.lift (b.allocate context bytes)
  fun m =>
    let (handle, buffers) := m.buffers.insert a
    (.ok handle, { m with buffers })

section Allocate

variable {b} {context : T.Context} {bytes : Nat}

theorem allocate_ok {a : T.Allocation} (h : b.allocate context bytes = .ok a) (m : Machine T) :
    allocate b context bytes m =
      (.ok m.buffers.fresh, { m with buffers := (m.buffers.insert a).2 }) := by
  show Action.bind (Action.lift (b.allocate context bytes)) _ m = _
  rw [h]
  rfl

theorem allocate_fault {e : Error} (h : b.allocate context bytes = .fault e) (m : Machine T) :
    allocate b context bytes m = (.fault e, m) := by
  show Action.bind (Action.lift (b.allocate context bytes)) _ m = _
  rw [h]
  rfl

theorem allocate_unwound {p : Panic} (h : b.allocate context bytes = .unwound p)
    (m : Machine T) : allocate b context bytes m = (.unwound p, m) := by
  show Action.bind (Action.lift (b.allocate context bytes)) _ m = _
  rw [h]
  rfl

end Allocate

/-- Replaces the first bytes of an allocation. -/
def writeBytes (context : T.Context) (handle : Handle) (data : List UInt8) :
    Action (Machine T) Error Unit := do
  let a ← allocation handle
  let a ← Action.lift (b.write context a data)
  Action.modify fun m => { m with buffers := m.buffers.update handle fun _ => a }

/-- The first bytes of an allocation. -/
def readBytes (context : T.Context) (handle : Handle) (count : Nat) :
    Action (Machine T) Error (List UInt8) := do
  let a ← allocation handle
  Action.lift (b.read context a count)

/-- A buffer of zeros. -/
def zeros (context : T.Context) (type : ElementType) (length : Nat) :
    Action (Machine T) Error DeviceBuffer :=
  match Word.mul? length type.size with
  | none => Action.fail (.outOfMemory (Word.limit - 1))
  | some bytes => do
    let handle ← allocate b context bytes
    return ⟨handle, type, length⟩

/-- Gives an owned reference back. -/
def drop (buffer : DeviceBuffer) (m : Machine T) : Machine T :=
  { m with buffers := m.buffers.release buffer.handle }

/-- Another buffer over the same memory. -/
def clone (buffer : DeviceBuffer) (m : Machine T) : DeviceBuffer × Machine T :=
  (buffer, { m with buffers := m.buffers.retain buffer.handle })

/-- A buffer that holds `elements`. -/
def ofElements (context : T.Context) (type : ElementType) (elements : List type.Bits) :
    Action (Machine T) Error DeviceBuffer := do
  let buffer ← zeros b context type elements.length
  if elements.isEmpty then
    return buffer
  fun m =>
    match writeBytes b context buffer.handle (type.encodeAll elements) m with
    | (.ok (), m) => (.ok buffer, m)
    | (.fault e, m) => (.fault e, buffer.drop m)
    | (.unwound p, m) => (.unwound p, buffer.drop m)

/-- A buffer as an argument of a kernel, which is handed the memory and the type of the elements. -/
def argument (buffer : DeviceBuffer) (access : Access) : Argument :=
  .buffer buffer.handle buffer.type access

/-- Whether an allocation of `available` bytes holds `length` elements. -/
def checkView (type : ElementType) (available length : Nat) : Except Error Unit :=
  match Word.mul? length type.size with
  | none =>
    .error (.invalidArgument "len" s!"{length} elements of {type.name} overflow the address space")
  | some needed =>
    if available < needed then
      .error (.invalidArgument "len"
        s!"buffer holds {available} bytes, {length} elements of {type.name} need {needed}")
    else
      .ok ()

/-- Takes over an owned reference to an allocation; the reference is given back if the allocation
is too small. -/
def ofHandle (handle : Handle) (type : ElementType) (length : Nat) :
    Action (Machine T) Error DeviceBuffer := do
  let a ← allocation handle
  fun m =>
    match checkView type (b.sizeOf a) length with
    | .ok () => (.ok ⟨handle, type, length⟩, m)
    | .error e => (.fault e, { m with buffers := m.buffers.release handle })

/-- A buffer of other elements over the memory of `buffer`. -/
def view (buffer : DeviceBuffer) (type : ElementType) (length : Nat) :
    Action (Machine T) Error DeviceBuffer := do
  Action.modify fun m => { m with buffers := m.buffers.retain buffer.handle }
  ofHandle b buffer.handle type length

/-- The elements of a buffer. -/
def toElements (context : T.Context) (buffer : DeviceBuffer) :
    Action (Machine T) Error (List buffer.type.Bits) := do
  if buffer.length = 0 then
    return []
  let bytes ← readBytes b context buffer.handle (buffer.length * buffer.type.size)
  return buffer.type.elements bytes

/-- Replaces all elements of a buffer. -/
def write (context : T.Context) (buffer : DeviceBuffer) (elements : List buffer.type.Bits) :
    Action (Machine T) Error Unit :=
  if elements.length = buffer.length then
    writeBytes b context buffer.handle (buffer.type.encodeAll elements)
  else
    Action.fail (.invalidArgument "data"
      s!"expected {buffer.length} elements, got {elements.length}")

def inspect (buffer : DeviceBuffer) : String :=
  Text.record "DeviceBuffer" [("runtime", Text.quoted b.name), ("dtype", buffer.type.label),
    ("len", toString buffer.length)] false

end DeviceBuffer

end Offload
