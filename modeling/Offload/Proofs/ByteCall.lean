import Offload.DeviceBuffer

/-!
# Calls on the bytes of a buffer

What callers see of a buffer that they read, write and clone, on a backend and on a list of bytes.
A backend that treats its allocations like lists gives the same answers.
-/

namespace Offload

/-- What a caller does to a buffer, or to a clone of it. -/
inductive ByteCall where
  | read (count : Nat)
  | write (data : List UInt8)
  | clone

/-- What the caller is told. -/
inductive ByteAnswer where
  | done
  | bytes (data : List UInt8)
  /-- An argument was invalid. -/
  | refused
  /-- The call failed in another way. -/
  | failed
  deriving DecidableEq

def ByteAnswer.of {α : Type} (f : α → ByteAnswer) : Outcome Error α → ByteAnswer
  | .ok a => f a
  | .fault (.invalidArgument ..) => .refused
  | _ => .failed

namespace ByteCall

variable {T : Carriers} {σ : Type}

/-- A call on the allocation behind a handle. -/
def run (b : Backend T) (context : T.Context) (handle : Handle) (c : ByteCall) (m : Machine T) :
    ByteAnswer × Machine T :=
  match c with
  | .read count =>
    let (r, m) := DeviceBuffer.readBytes b context handle count m
    (.of .bytes r, m)
  | .write data =>
    let (r, m) := DeviceBuffer.writeBytes b context handle data m
    (.of (fun _ => .done) r, m)
  | .clone => (.done, m.retainBuffers [handle])

/-- A call on a list of bytes. `store` tells what becomes of them when they are written. -/
def onList (store : List UInt8 → List UInt8 → List UInt8) (c : ByteCall) (bytes : List UInt8) :
    ByteAnswer × List UInt8 :=
  match c with
  | .read count =>
    if count ≤ bytes.length then (.bytes (bytes.take count), bytes) else (.refused, bytes)
  | .write data =>
    if data.length ≤ bytes.length then (.done, store data bytes) else (.refused, bytes)
  | .clone => (.done, bytes)

/-- The answers to calls that are made one after another. -/
def answers (step : ByteCall → σ → ByteAnswer × σ) : List ByteCall → σ → List ByteAnswer
  | [], _ => []
  | c :: rest, s => (step c s).1 :: answers step rest (step c s).2

end ByteCall

/-- Replaces the first bytes. -/
def overwrite (data bytes : List UInt8) : List UInt8 :=
  data ++ bytes.drop data.length

/-! ## Backends like lists -/

section Backends

variable {T : Carriers} {b : Backend T} {context : T.Context}
  {represents : T.Allocation → List UInt8 → Prop} {store : List UInt8 → List UInt8 → List UInt8}
  {handle : Handle} {m : Machine T} {bytes : List UInt8}

/-- Allocations are lists of bytes, on which writes do what `store` says. -/
structure Backend.LikeList (b : Backend T) (context : T.Context)
    (represents : T.Allocation → List UInt8 → Prop)
    (store : List UInt8 → List UInt8 → List UInt8) : Prop where
  read : ∀ {a bytes}, represents a bytes → ∀ {count}, count ≤ bytes.length →
    b.read context a count = .ok (bytes.take count)
  read_past : ∀ {a bytes}, represents a bytes → ∀ {count}, bytes.length < count →
    ∃ argument reason, b.read context a count = .fault (.invalidArgument argument reason)
  write : ∀ {a bytes}, represents a bytes → ∀ {data}, data.length ≤ bytes.length →
    ∃ a', b.write context a data = .ok a' ∧ represents a' (store data bytes)
  write_past : ∀ {a bytes}, represents a bytes → ∀ {data}, bytes.length < data.length →
    ∃ argument reason, b.write context a data = .fault (.invalidArgument argument reason)

/-- Behind the handle there are these bytes. -/
def Machine.Has (represents : T.Allocation → List UInt8 → Prop) (m : Machine T) (handle : Handle)
    (bytes : List UInt8) : Prop :=
  ∃ a, m.buffers.get? handle = some a ∧ represents a bytes

theorem Store.get?_update {α : Type} (s : Store α) (h : Handle) (f : α → α) :
    (s.update h f).get? h = (s.get? h).map f := by
  rw [get?, get?, update, cell?_adjust_self]
  cases s.cell? h <;> rfl

theorem Store.get?_retain {α : Type} (s : Store α) (h : Handle) :
    (s.retain h).get? h = s.get? h := by
  rw [get?, get?, retain, cell?_adjust_self]
  cases s.cell? h <;> rfl

theorem readBytes_eq {a : T.Allocation} (h : m.buffers.get? handle = some a) (count : Nat) :
    DeviceBuffer.readBytes b context handle count m = (b.read context a count, m) := by
  show Action.bind (DeviceBuffer.allocation handle) _ m = _
  simp only [Action.bind, DeviceBuffer.allocation, h]
  rfl

theorem writeBytes_ok {a a' : T.Allocation} {data : List UInt8}
    (h : m.buffers.get? handle = some a) (hw : b.write context a data = .ok a') :
    DeviceBuffer.writeBytes b context handle data m =
      (.ok (), { m with buffers := m.buffers.update handle fun _ => a' }) := by
  show Action.bind (DeviceBuffer.allocation handle) _ m = _
  simp only [Action.bind, DeviceBuffer.allocation, h]
  show Action.bind (Action.lift (b.write context a data)) _ m = _
  rw [hw]
  rfl

theorem writeBytes_fault {a : T.Allocation} {data : List UInt8} {e : Error}
    (h : m.buffers.get? handle = some a) (hw : b.write context a data = .fault e) :
    DeviceBuffer.writeBytes b context handle data m = (.fault e, m) := by
  show Action.bind (DeviceBuffer.allocation handle) _ m = _
  simp only [Action.bind, DeviceBuffer.allocation, h]
  show Action.bind (Action.lift (b.write context a data)) _ m = _
  rw [hw]
  rfl

theorem writeBytes_unwound {a : T.Allocation} {data : List UInt8} {p : Panic}
    (h : m.buffers.get? handle = some a) (hw : b.write context a data = .unwound p) :
    DeviceBuffer.writeBytes b context handle data m = (.unwound p, m) := by
  show Action.bind (DeviceBuffer.allocation handle) _ m = _
  simp only [Action.bind, DeviceBuffer.allocation, h]
  show Action.bind (Action.lift (b.write context a data)) _ m = _
  rw [hw]
  rfl

/-- One call is answered as on the list, and leaves what it leaves of the list. -/
theorem Backend.LikeList.step (hb : b.LikeList context represents store)
    (hm : m.Has represents handle bytes) (c : ByteCall) :
    (c.run b context handle m).1 = (c.onList store bytes).1 ∧
      (c.run b context handle m).2.Has represents handle (c.onList store bytes).2 := by
  obtain ⟨a, ha, hr⟩ := hm
  cases c with
  | read count =>
      simp only [ByteCall.run, ByteCall.onList, readBytes_eq ha]
      by_cases hc : count ≤ bytes.length
      · rw [hb.read hr hc, if_pos hc]
        exact ⟨rfl, a, ha, hr⟩
      · obtain ⟨argument, reason, he⟩ := hb.read_past hr (Nat.lt_of_not_le hc)
        rw [he, if_neg hc]
        exact ⟨rfl, a, ha, hr⟩
  | write data =>
      simp only [ByteCall.run, ByteCall.onList]
      by_cases hd : data.length ≤ bytes.length
      · obtain ⟨a', hw, hr'⟩ := hb.write hr hd
        rw [writeBytes_ok ha hw, if_pos hd]
        exact ⟨rfl, a', by rw [Store.get?_update, ha]; rfl, hr'⟩
      · obtain ⟨argument, reason, he⟩ := hb.write_past hr (Nat.lt_of_not_le hd)
        rw [writeBytes_fault ha he, if_neg hd]
        exact ⟨rfl, a, ha, hr⟩
  | clone => exact ⟨rfl, a, (Store.get?_retain _ _).trans ha, hr⟩

theorem Backend.LikeList.answers_eq (hb : b.LikeList context represents store)
    (hm : m.Has represents handle bytes) (calls : List ByteCall) :
    ByteCall.answers (ByteCall.run b context handle) calls m =
      ByteCall.answers (ByteCall.onList store) calls bytes := by
  induction calls generalizing m bytes with
  | nil => rfl
  | cons c rest ih =>
      obtain ⟨he, hm'⟩ := hb.step hm c
      rw [ByteCall.answers, ByteCall.answers, he, ih hm']

/-- A fresh allocation has the bytes that it was made with. -/
theorem has_of_allocate {n : Nat} {m' : Machine T}
    (hr : ∀ a, b.allocate context n = .ok a → represents a bytes)
    (h : DeviceBuffer.allocate b context n m = (.ok handle, m')) :
    m'.Has represents handle bytes := by
  cases ha : b.allocate context n with
  | ok a =>
      rw [DeviceBuffer.allocate_ok ha] at h
      cases h
      exact ⟨a, m.buffers.get?_insert a, hr a ha⟩
  | fault e =>
      rw [DeviceBuffer.allocate_fault ha] at h
      cases h
  | unwound p =>
      rw [DeviceBuffer.allocate_unwound ha] at h
      cases h

end Backends

end Offload
