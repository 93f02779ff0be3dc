/-!
# Element types

The six numeric types a buffer or a scalar argument can have. An element is kept as its bits:
integers in two's complement, floats in their IEEE encoding.
-/

namespace Offload

/-- Type of one buffer element. -/
inductive ElementType where
  | f64
  | f32
  | i64
  | i32
  | u64
  | u32
  deriving DecidableEq, Repr

namespace ElementType

def all : List ElementType := [.f64, .f32, .i64, .i32, .u64, .u32]

/-- Bytes of one element. -/
def size : ElementType → Nat
  | .f64 | .i64 | .u64 => 8
  | .f32 | .i32 | .u32 => 4

/-- The bits of one element. -/
abbrev Bits (t : ElementType) : Type := BitVec (8 * t.size)

def isFloat : ElementType → Bool
  | .f64 | .f32 => true
  | .i64 | .i32 | .u64 | .u32 => false

/-- Short lower-case name, as kernels and messages write it. -/
def name : ElementType → String
  | .f64 => "f64"
  | .f32 => "f32"
  | .i64 => "i64"
  | .i32 => "i32"
  | .u64 => "u64"
  | .u32 => "u32"

/-- Name used in inspection texts. -/
def label : ElementType → String
  | .f64 => "F64"
  | .f32 => "F32"
  | .i64 => "I64"
  | .i32 => "I32"
  | .u64 => "U64"
  | .u32 => "U32"

/-- Stable number of the type: the tens tell floats, signed and unsigned integers apart. -/
def tag : ElementType → Nat
  | .f64 => 0
  | .f32 => 1
  | .i64 => 10
  | .i32 => 11
  | .u64 => 20
  | .u32 => 21

def ofName? (s : String) : Option ElementType :=
  all.find? (·.name == s)

theorem size_pos (t : ElementType) : 0 < t.size := by
  cases t <;> decide

end ElementType

end Offload
