/-!
# Shortest decimals

The decimal with the fewest digits among those that a binary floating-point format rounds to a
given number. Of several with that many digits the nearest is taken, and of two equally near ones
the larger.
-/

namespace Offload

/-- A positive decimal `digits * 10 ^ power`. -/
structure Decimal where
  digits : Nat
  power : Int
  deriving DecidableEq, Repr

namespace Decimal

/-- The numbers that round to `value / denominator`, between `low` and `high` over the same
denominator. The ends belong to it if `closed`. -/
structure Interval where
  value : Nat
  low : Nat
  high : Nat
  denominator : Nat
  closed : Bool

/-- The interval of `mantissa * 2 ^ exponent`. Below a power of two the next number is half as far
away as above it; `narrowBelow` says whether this is such a place. -/
def Interval.ofBinary (mantissa : Nat) (exponent : Int) (narrowBelow : Bool) : Interval :=
  let quarter := exponent - 2
  let scale := Nat.pow 2 quarter.toNat
  { value := 4 * mantissa * scale
    low := (4 * mantissa - if narrowBelow then 1 else 2) * scale
    high := (4 * mantissa + 2) * scale
    denominator := Nat.pow 2 (-quarter).toNat
    closed := mantissa % 2 == 0 }

/-- A decimal over the interval's denominator, as a fraction. -/
def asFraction (d : Decimal) (denominator : Nat) : Nat × Nat :=
  (d.digits * Nat.pow 10 d.power.toNat * denominator, Nat.pow 10 (-d.power).toNat)

def Interval.contains (i : Interval) (d : Decimal) : Bool :=
  let (n, m) := d.asFraction i.denominator
  if i.closed then i.low * m ≤ n && n ≤ i.high * m else i.low * m < n && n < i.high * m

/-- Distance of a decimal from the value, as a fraction. -/
def Interval.distance (i : Interval) (d : Decimal) : Nat × Nat :=
  let (n, m) := d.asFraction i.denominator
  ((n - i.value * m) + (i.value * m - n), m)

/-- A power of ten that lifts every positive number of the formats in use above one. -/
def leadingShift : Nat := 400

/-- Decimal exponent of the value: the power of its first digit. -/
def Interval.leading (i : Interval) : Int :=
  (Nat.toDigits 10 (i.value * Nat.pow 10 leadingShift / i.denominator)).length - 1 - leadingShift

/-- Writes ten units of a digit as one of the next. -/
def carry (d : Decimal) : Decimal :=
  if d.digits % 10 = 0 then ⟨d.digits / 10, d.power + 1⟩ else d

/-- The best decimal of `count` digits in the interval, of the two next to the value. -/
def Interval.best? (i : Interval) (count : Nat) : Option Decimal :=
  let power := i.leading + 1 - count
  let floor := i.value * Nat.pow 10 (-power).toNat / (i.denominator * Nat.pow 10 power.toNat)
  let below : Decimal := ⟨floor, power⟩
  let above := carry ⟨floor + 1, power⟩
  match i.contains below, i.contains above with
  | true, true =>
    if (i.distance below).1 * (i.distance above).2 < (i.distance above).1 * (i.distance below).2
    then some below else some above
  | true, false => some below
  | false, true => some above
  | false, false => none

/-- The shortest decimal of the interval; seventeen digits are enough for the formats in use. -/
def Interval.shortest? (i : Interval) : Option Decimal :=
  (List.range 17).findSome? fun n => i.best? (n + 1)

end Decimal

end Offload
