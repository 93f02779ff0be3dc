import Offload.Error
import Offload.Memory
import Offload.Text.Quoted
import Offload.Word

/-!
# Memory of the CPU device

A run of bytes with the locks that launches hold on it.
-/

namespace Offload.Cpu

/-- Locks held on an allocation. -/
@[ext]
structure Locks where
  shared : Nat := 0
  exclusive : Nat := 0
  deriving DecidableEq, Repr

namespace Locks

def acquire (l : Locks) (exclusively : Bool) : Locks :=
  if exclusively then { l with exclusive := l.exclusive + 1 } else { l with shared := l.shared + 1 }

def release (l : Locks) (exclusively : Bool) : Locks :=
  if exclusively then { l with exclusive := l.exclusive - 1 } else { l with shared := l.shared - 1 }

end Locks

structure Allocation where
  memory : Memory
  locks : Locks := {}

namespace Allocation

def size (a : Allocation) : Nat := a.memory.size

/-- Allocates whole words of eight bytes, where there are up to `capacity` bytes to be had. -/
def make (capacity : Fin Word.limit) (bytes : Nat) : Except Error Allocation :=
  if (bytes + 7) / 8 * 8 ≤ capacity then .ok { memory := .zeroed bytes }
  else .error (.outOfMemory bytes)

def write (a : Allocation) (data : List UInt8) : Except Error Allocation :=
  if data.length ≤ a.size then .ok { a with memory := a.memory.write data }
  else
    .error (.invalidArgument "data" s!"{data.length} bytes do not fit a {a.size}-byte buffer")

def read (a : Allocation) (count : Nat) : Except Error (List UInt8) :=
  if count ≤ a.size then .ok (a.memory.read 0 count)
  else
    .error (.invalidArgument "out" s!"{count} bytes requested from a {a.size}-byte buffer")

def inspect (a : Allocation) (refs : Nat) : String :=
  Text.record "CpuBuffer" [("len", toString a.size), ("refs", toString refs)] false

end Allocation

end Offload.Cpu
