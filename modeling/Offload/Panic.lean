/-!
# Panics

Ways in which an operation unwinds instead of returning, as data.
-/

namespace Offload

/-- Operations on 64-bit words that can overflow. -/
inductive WordOp where
  | add
  | subtract
  | multiply
  deriving DecidableEq, Repr

/-- What an unwinding operation carries to whoever catches it. -/
inductive Panic where
  /-- A result does not fit in 64 bits. -/
  | overflow (op : WordOp)
  | divideByZero
  | remainderByZero
  | axisOutOfRange (axis rank : Nat)
  /-- A range was converted to another number of axes than its own. -/
  | rankMismatch
  /-- A range has a number of axes for which there is no device form. -/
  | unreachableRank (rank : Nat)
  | indexOutOfBounds (length index : Nat)
  /-- A slice was to start past the end. -/
  | sliceStart (length start : Nat)
  /-- A slice was to end past the end. -/
  | sliceEnd (length stop : Nat)
  /-- A launch was given work-group local memory. -/
  | localArgument
  /-- A kernel argument was bound before those that come before it. -/
  | argumentOrder
  /-- The graphics layer refused a shader, a buffer or a binding. -/
  | validation
  /-- Raised on purpose; a payload other than text is `none`. -/
  | raised (payload : Option String)
  deriving DecidableEq, Repr

namespace Panic

/-- Text of the payload, if it is text. -/
def text? : Panic → Option String
  | .overflow .add => some "attempt to add with overflow"
  | .overflow .subtract => some "attempt to subtract with overflow"
  | .overflow .multiply => some "attempt to multiply with overflow"
  | .divideByZero => some "attempt to divide by zero"
  | .remainderByZero => some "attempt to calculate the remainder with a divisor of zero"
  | .axisOutOfRange axis rank =>
    some s!"axis {axis} out of range for {rank}-dimensional kernel range"
  | .rankMismatch =>
    some "assertion `left == right` failed: unexpected number of dimensions for native range"
  | .unreachableRank rank =>
    some ("internal error: entered unreachable code: " ++
      s!"kernel ranges have 1 to 3 dimensions, got {rank}")
  | .indexOutOfBounds length index =>
    some s!"index out of bounds: the len is {length} but the index is {index}"
  | .sliceStart length start =>
    some s!"range start index {start} out of range for slice of length {length}"
  | .sliceEnd length stop =>
    some s!"range end index {stop} out of range for slice of length {length}"
  | .localArgument => some "local kernel arguments are not supported"
  | .argumentOrder =>
    some "assertion `left == right` failed: kernel arguments must be bound in order"
  | .validation => some "wgpu error: Validation Error"
  | .raised payload => payload

/-- How a panic reads once the failure boundary of a launch has caught it. -/
def report (p : Panic) : String :=
  match p.text? with
  | some text => "panic during submission: " ++ text
  | none => "panic during submission"

end Panic

end Offload
