import Offload.Error
import Offload.Gpu.Device
import Offload.Memory
import Offload.Outcome
import Offload.Word

/-!
# Memory of GPU devices

The device copies whole words of four bytes. A buffer of any length lives in storage of whole words;
a write that ends inside a word reads that word first, so that the rest of it stays.
-/

namespace Offload.Gpu

/-- Bytes of a word. -/
def wordSize : Nat := 4

/-- `n` bytes rounded up to whole words. -/
def aligned (n : Nat) : Nat := (n + (wordSize - 1)) / wordSize * wordSize

structure Allocation where
  /-- The context that it was made in. -/
  owner : Context
  /-- Bytes that were asked for. -/
  length : Nat
  storage : Memory

namespace Allocation

/-- Allocates zeroed storage of at least one word, on a device that has buffers up to a size. -/
def make (bufferSize : Nat) (owner : Context) (length : Nat) : Except Panic Allocation :=
  let size := aligned (max length 1)
  if Word.limit ≤ size then .error (.overflow .multiply)
  else if bufferSize < size then .error .validation
  else .ok ⟨owner, length, .zeroed size⟩

/-- An access to the bytes before `stop`. -/
def checkAccess (a : Allocation) (stop : Nat) : Except Error Unit :=
  if a.length < stop then
    .error (.invalidArgument "buffer"
      s!"access of {stop} bytes exceeds buffer of {a.length} bytes")
  else
    .ok ()

/-- Copies the words that hold `count` bytes from `offset` on, which is at a word, and gives those
bytes. -/
def readFrom (a : Allocation) (offset count : Nat) : Except Error (List UInt8) := do
  a.checkAccess (offset + count)
  return (a.storage.read offset (aligned count)).take count

/-- Gives the first bytes. -/
def read (a : Allocation) (count : Nat) : Except Error (List UInt8) :=
  a.readFrom 0 count

/-- `data` filled up to whole words: with the bytes after it, or zeros where the buffer ends in its
last word. -/
def wholeWords (a : Allocation) (data : List UInt8) : Except Error (List UInt8) := do
  let size := aligned data.length
  if size ≤ a.length then
    let start := size - wordSize
    let last ← a.readFrom start wordSize
    return data ++ last.drop (data.length - start)
  else
    return data ++ List.replicate (size - data.length) 0

/-- Replaces the first bytes. -/
def write (a : Allocation) (data : List UInt8) : Except Error Allocation := do
  a.checkAccess data.length
  if data.length % wordSize = 0 then
    return { a with storage := a.storage.write data }
  else
    return { a with storage := a.storage.write (← a.wholeWords data) }

def inspect (a : Allocation) : String :=
  Text.record "WgpuBuffer" [("len", toString a.length)] false

end Allocation

end Offload.Gpu
