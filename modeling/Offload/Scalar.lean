import Offload.Bytes

/-!
# Scalars

One element together with its type.
-/

namespace Offload

/-- A typed constant. -/
structure Scalar where
  type : ElementType
  bits : type.Bits
  deriving DecidableEq

namespace Scalar

/-- The element, if it has type `t`. -/
def get? (s : Scalar) (t : ElementType) : Option t.Bits :=
  if h : s.type = t then some (h ▸ s.bits) else none

def toBytes (s : Scalar) : List UInt8 :=
  s.type.encode s.bits

theorem get?_self (s : Scalar) : s.get? s.type = some s.bits := by
  simp [get?]

theorem get?_eq_none_iff {s : Scalar} {t : ElementType} : s.get? t = none ↔ s.type ≠ t := by
  unfold get?
  split <;> simp_all

end Scalar

end Offload
