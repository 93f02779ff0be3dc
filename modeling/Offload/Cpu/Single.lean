/-!
# Single precision on bits

Arithmetic on IEEE single-precision numbers, given and returned as bits. A NaN operand passes
through, made quiet, the first one first; an operation that has no result gives the NaN with the
sign bit set.
-/

namespace Offload.Cpu.Single

abbrev Bits : Type := BitVec 32

def value (x : Bits) : Float32 := .ofBits ⟨x⟩

def isNaN (x : Bits) : Bool :=
  x.toNat % 0x80000000 > 0x7F800000

/-- The NaN with its quiet bit set. -/
def quiet (x : Bits) : Bits := x ||| 0x00400000

def noResult : Bits := 0xFFC00000

def lift (op : Float32 → Float32 → Float32) (x y : Bits) : Bits :=
  if isNaN x then quiet x
  else if isNaN y then quiet y
  else
    let r := op (value x) (value y)
    if r.isNaN then noResult else r.toBits.toBitVec

def add : Bits → Bits → Bits := lift (· + ·)
def sub : Bits → Bits → Bits := lift (· - ·)
def mul : Bits → Bits → Bits := lift (· * ·)

/-- Position of a number in the order of the numbers. Both zeros have the same. -/
def position (x : Bits) : Int :=
  let magnitude := x.toNat % 0x80000000
  if x.toNat < 0x80000000 then magnitude else -magnitude

/-- Strictly less; a NaN is neither less nor greater than anything. -/
def less (x y : Bits) : Bool :=
  !isNaN x && !isNaN y && position x < position y

def infinity : Bits := 0x7F800000

/-- Square of the Euclidean distance, summed from the first feature on. -/
def squaredDistance (xs ys : List Bits) : Bits :=
  (xs.zip ys).foldl (fun sum (x, y) => add sum (mul (sub x y) (sub x y))) 0x80000000

end Offload.Cpu.Single
