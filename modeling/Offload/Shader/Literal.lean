/-!
# Number literals

Whole numbers and floating point numbers, each with or without a type. A floating point number only
has to be one that its type can hold, so its value is left out.
-/

namespace Offload.Shader

/-- Type of a whole number; without a suffix it takes the type its use asks for. -/
inductive IntKind where
  | untyped
  | i32
  | u32
  | i64
  | u64
  deriving DecidableEq, Repr

namespace IntKind

/-- Whether the type has a value. -/
def holds (k : IntKind) (n : Int) : Bool :=
  match k with
  | .untyped | .i64 => -0x8000000000000000 ≤ n && n < 0x8000000000000000
  | .i32 => -0x80000000 ≤ n && n < 0x80000000
  | .u32 => 0 ≤ n && n < 0x100000000
  | .u64 => 0 ≤ n && n < 0x10000000000000000

def isUnsigned (k : IntKind) : Bool :=
  k == .u32 || k == .u64

/-- The name of the type, if it has one. -/
def name? : IntKind → Option String
  | .untyped => none
  | .i32 => some "i32"
  | .u32 => some "u32"
  | .i64 => some "i64"
  | .u64 => some "u64"

end IntKind

/-- A binary floating point format: the bits of its significands and its largest exponent. -/
structure FloatFormat where
  bits : Nat
  largest : Int
  deriving DecidableEq, Repr

namespace FloatFormat

/-- The least exponent that a number other than zero can have. -/
def least (f : FloatFormat) : Int := 2 - f.largest - f.bits

/-- The least number that is rounded to infinity. -/
def infinite (f : FloatFormat) : Nat :=
  Nat.pow 2 (f.largest + 1).toNat - Nat.pow 2 (f.largest - f.bits).toNat

/-- Whether a decimal number is rounded to a finite one. -/
def holdsDecimal (f : FloatFormat) (significand : Nat) (exponent : Int) : Bool :=
  if significand = 0 then true
  else if f.largest < exponent then false
  else if 0 ≤ exponent then significand * Nat.pow 10 exponent.toNat < f.infinite
  else
    -- Below one, if there are no more digits than places after the point.
    let places := (-exponent).toNat
    significand.log2 < 3 * places || significand < f.infinite * Nat.pow 10 places

/-- How many times two divides a number of at most `fuel` bits. -/
def factorsOfTwo : Nat → Nat → Nat
  | 0, _ => 0
  | fuel + 1, n => if n % 2 = 0 then factorsOfTwo fuel (n / 2) + 1 else 0

/-- Whether the format has the number `significand * 2 ^ exponent`. -/
def holdsBinary (f : FloatFormat) (significand : Nat) (exponent : Int) : Bool :=
  if significand = 0 then true
  else
    let twos := factorsOfTwo 64 significand
    let odd := significand / Nat.pow 2 twos
    let top := exponent + twos + odd.log2
    f.least ≤ top && top ≤ f.largest && odd.log2 < f.bits && odd.log2 ≤ top - f.least

end FloatFormat

/-- Type of a floating point number; without a suffix it takes the type its use asks for. -/
inductive FloatKind where
  | untyped
  | f32
  | f64
  deriving DecidableEq, Repr

namespace FloatKind

/-- Numbers without a type are kept in double precision. -/
def format : FloatKind → FloatFormat
  | .f32 => ⟨24, 127⟩
  | .untyped | .f64 => ⟨53, 1023⟩

/-- The name of the type, if it has one. -/
def name? : FloatKind → Option String
  | .untyped => none
  | .f32 => some "f32"
  | .f64 => some "f64"

end FloatKind

inductive Literal where
  | int (value : Int) (kind : IntKind)
  | float (kind : FloatKind)
  | bool (value : Bool)
  deriving DecidableEq, Repr

namespace Literal

/-- The name of the type, if the literal has one. -/
def typeName? : Literal → Option String
  | .int _ kind => kind.name?
  | .float kind => kind.name?
  | .bool _ => some "bool"

/-- A whole number within the range of its type. -/
def int? (value : Int) (kind : IntKind) : Option Literal :=
  if kind.holds value then some (.int value kind) else none

def isHexDigit (c : Char) : Bool :=
  c.isDigit || ('a' ≤ c && c ≤ 'f') || ('A' ≤ c && c ≤ 'F')

def digitValue (c : Char) : Nat :=
  if c.isDigit then c.toNat - '0'.toNat
  else if 'a' ≤ c then c.toNat - 'a'.toNat + 10
  else c.toNat - 'A'.toNat + 10

/-- The number that digits stand for. -/
def valueOf (base : Nat) (digits : List Char) : Nat :=
  digits.foldl (fun n c => base * n + digitValue c) 0

/-- The type of a whole number, and what follows it. -/
def intSuffix : List Char → IntKind × List Char
  | 'i' :: rest => (.i32, rest)
  | 'u' :: rest => (.u32, rest)
  | 'l' :: 'i' :: rest => (.i64, rest)
  | 'l' :: 'u' :: rest => (.u64, rest)
  | rest => (.untyped, rest)

/-- The type of a floating point number, and what follows it. There is no half precision. -/
def floatSuffix? : List Char → Option (FloatKind × List Char)
  | 'f' :: rest => some (.f32, rest)
  | 'l' :: 'f' :: rest => some (.f64, rest)
  | 'h' :: _ => none
  | rest => some (.untyped, rest)

/-- An exponent after its letter, and what follows it. -/
def exponent? (text : List Char) : Option (Int × List Char) :=
  let (sign, text) := match text with
    | '+' :: rest => ((1 : Int), rest)
    | '-' :: rest => (-1, rest)
    | rest => (1, rest)
  let digits := text.takeWhile Char.isDigit
  if digits.isEmpty then none
  else some (sign * valueOf 10 digits, text.dropWhile Char.isDigit)

/-- The exponent after one of two letters, zero if there is none, and what follows it. -/
def optionalExponent? (small large : Char) (text : List Char) : Option (Int × List Char) :=
  match text with
  | c :: rest => if c = small ∨ c = large then exponent? rest else some (0, text)
  | [] => some (0, [])

/-- A floating point number in decimal digits, with what follows it. -/
def decimalFloat? (whole fraction : List Char) (text : List Char) :
    Option (Literal × List Char) := do
  let (exponent, text) ← optionalExponent? 'e' 'E' text
  let (kind, text) ← floatSuffix? text
  if kind.format.holdsDecimal (valueOf 10 (whole ++ fraction)) (exponent - fraction.length) then
    some (.float kind, text)
  else none

/-- The number in decimal digits that a text starts with. A whole number has no leading zeros. -/
def scanDecimal (text : List Char) : Option (Literal × List Char) :=
  let digits := text.takeWhile Char.isDigit
  match text.dropWhile Char.isDigit with
  | '.' :: rest =>
    let fraction := rest.takeWhile Char.isDigit
    if digits.isEmpty && fraction.isEmpty then none
    else decimalFloat? digits fraction (rest.dropWhile Char.isDigit)
  | rest =>
    if digits.isEmpty then none
    else if ['e', 'E'].contains (rest.headD ' ') then decimalFloat? digits [] rest
    else if digits.head? == some '0' && digits.length != 1 then none
    else
      match floatSuffix? rest with
      | some (.untyped, _) =>
        let (kind, rest) := intSuffix rest
        (int? (valueOf 10 digits) kind).map (·, rest)
      | _ => decimalFloat? digits [] rest

/-- Appends hexadecimal digits to a significand, for which there are 64 bits. -/
def appendHex (significand : Nat) : List Char → Option Nat
  | [] => some significand
  | c :: rest =>
    if Nat.pow 2 60 ≤ significand then none else appendHex (16 * significand + digitValue c) rest

/-- Appends the digits of a fraction, and counts them in `places`. The `zeros` before a digit are
appended with it; zeros at the end are not. Before the first digit that counts any number of them can
stand, since they take no bits; after it there can be fourteen. -/
def appendFraction (significand places zeros : Nat) : List Char → Option (Nat × Nat)
  | [] => some (significand, places)
  | c :: rest =>
    let digit := digitValue c
    if digit = 0 then appendFraction significand places (zeros + 1) rest
    else
      let count := zeros + 1
      if significand = 0 then appendFraction digit (places + count) 0 rest
      else if 16 ≤ count ∨ Nat.pow 2 (64 - 4 * count) ≤ significand then none
      else appendFraction (Nat.pow 16 count * significand + digit) (places + count) 0 rest

/-- A floating point number in hexadecimal digits, which its type has to hold exactly. -/
def hexFloat? (whole fraction : List Char) (exponent : Int) (kind : FloatKind) :
    Option Literal := do
  let significand ← appendHex 0 whole
  let (significand, places) ← appendFraction significand 0 0 fraction
  if kind.format.holdsBinary significand (exponent - 4 * places) then some (.float kind) else none

/-- The number in hexadecimal digits that a text starts with, after the mark of its base. -/
def scanHex (text : List Char) : Option (Literal × List Char) :=
  let digits := text.takeWhile isHexDigit
  match text.dropWhile isHexDigit with
  | '.' :: rest =>
    let fraction := rest.takeWhile isHexDigit
    let rest := rest.dropWhile isHexDigit
    if digits.isEmpty && fraction.isEmpty then none
    else if ['p', 'P'].contains (rest.headD ' ') then do
      let (exponent, rest) ← exponent? rest.tail
      let (kind, rest) ← floatSuffix? rest
      return (← hexFloat? digits fraction exponent kind, rest)
    else do
      return (← hexFloat? digits fraction 0 .untyped, rest)
  | rest =>
    if digits.isEmpty then none
    else if ['p', 'P'].contains (rest.headD ' ') then do
      let (exponent, rest) ← exponent? rest.tail
      let (kind, rest) ← floatSuffix? rest
      return (← hexFloat? digits [] exponent kind, rest)
    else
      let (kind, rest) := intSuffix rest
      (int? (valueOf 16 digits) kind).map (·, rest)

/-- The number that a text starts with, and what follows it. -/
def scan : List Char → Option (Literal × List Char)
  | '0' :: 'x' :: rest => scanHex rest
  | '0' :: 'X' :: rest => scanHex rest
  | text => scanDecimal text

end Literal

end Offload.Shader
