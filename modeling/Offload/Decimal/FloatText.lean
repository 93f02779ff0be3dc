import Offload.Decimal.Shortest
import Offload.Scalar

/-!
# Texts of scalars

Floats are written with their shortest digits: positionally from `1e-4` up to `1e16` and with an
exponent outside, always with a point or an exponent.
-/

namespace Offload

/-- Widths of the parts of a binary floating-point format. -/
structure FloatFormat where
  exponentBits : Nat
  fractionBits : Nat

namespace FloatFormat

def single : FloatFormat := ⟨8, 23⟩
def double : FloatFormat := ⟨11, 52⟩

/-- Positional notation is used for decimal exponents from here ... -/
def lowestPositional : Int := -4

/-- ... to just below here. -/
def highestPositional : Int := 16

/-- Digits with a point after the first `whole` of them, zeros filled in. -/
def positional (digits : List Char) (whole : Int) : String :=
  if whole ≤ 0 then
    "0." ++ String.ofList (List.replicate (-whole).toNat '0' ++ digits)
  else
    let fraction := digits.drop whole.toNat
    String.ofList (digits.take whole.toNat ++ List.replicate (whole.toNat - digits.length) '0') ++
      "." ++ (if fraction.isEmpty then "0" else String.ofList fraction)

def scientific (digits : List Char) (exponent : Int) : String :=
  let fraction := digits.drop 1
  String.ofList (digits.take 1) ++ (if fraction.isEmpty then "" else "." ++ String.ofList fraction)
    ++ "e" ++ toString exponent

/-- Text of a positive decimal. -/
def magnitude (d : Decimal) : String :=
  let digits := Nat.toDigits 10 d.digits
  let exponent := d.power + digits.length - 1
  if lowestPositional ≤ exponent ∧ exponent < highestPositional then
    positional digits (exponent + 1)
  else
    scientific digits exponent

/-- Text of the number that `bits` encode. -/
def render (f : FloatFormat) (bits : Nat) : String :=
  let fraction := bits % Nat.pow 2 f.fractionBits
  let exponent := bits / Nat.pow 2 f.fractionBits % Nat.pow 2 f.exponentBits
  let negative := bits / Nat.pow 2 (f.fractionBits + f.exponentBits) % 2 == 1
  let sign := if negative then "-" else ""
  if exponent = Nat.pow 2 f.exponentBits - 1 then
    if fraction = 0 then sign ++ "inf" else "NaN"
  else if exponent = 0 ∧ fraction = 0 then
    sign ++ "0.0"
  else
    let mantissa := if exponent = 0 then fraction else Nat.pow 2 f.fractionBits + fraction
    let bias := Nat.pow 2 (f.exponentBits - 1) - 1 + f.fractionBits
    let narrowBelow := fraction == 0 && exponent > 1
    let interval := Decimal.Interval.ofBinary mantissa (max exponent 1 - bias) narrowBelow
    match interval.shortest? with
    | some d => sign ++ magnitude d
    | none => "NaN"

end FloatFormat

/-- Text of the value that the bits of an element stand for. -/
def ElementType.renderBits : (t : ElementType) → t.Bits → String
  | .f64, bits => FloatFormat.double.render bits.toNat
  | .f32, bits => FloatFormat.single.render bits.toNat
  | .i64, bits => toString bits.toInt
  | .i32, bits => toString bits.toInt
  | .u64, bits => toString bits.toNat
  | .u32, bits => toString bits.toNat

/-- Type and value, as inspection texts write a constant. -/
def Scalar.inspect (s : Scalar) : String :=
  s!"{s.type.label}({s.type.renderBits s.bits})"

end Offload
