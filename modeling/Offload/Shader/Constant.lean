import Offload.Shader.Names
import Offload.Shader.Rejection
import Offload.Shader.Syntax

/-!
# Constants

Values of constant expressions over literals and other constants. An expression of another form has a
value that is not known here.
-/

namespace Offload.Shader

/-- Values of the constants so far; one that is not known is `none`. -/
abbrev Constants : Type := List (String × Option Literal)

/-- The type of an operation on two whole numbers, if their types go together. -/
def IntKind.join? (j k : IntKind) : Option IntKind :=
  if j = .untyped then some k
  else if k = .untyped ∨ j = k then some j
  else none

/-- The type of an operation on two floating point numbers, if their types go together. -/
def FloatKind.join? (j k : FloatKind) : Option FloatKind :=
  if j = .untyped then some k
  else if k = .untyped ∨ j = k then some j
  else none

namespace Literal

/-- A literal as one of a type: itself if it has that type, or a number without a type that the type
has. -/
def convert? (type : String) (l : Literal) : Option Literal :=
  if l.typeName? = some type then some l
  else
    match l, type with
    | .int value .untyped, "i32" => int? value .i32
    | .int value .untyped, "u32" => int? value .u32
    | .int value .untyped, "i64" => int? value .i64
    | .int value .untyped, "u64" => int? value .u64
    | .int _ .untyped, "f32" | .float .untyped, "f32" => some (.float .f32)
    | .int _ .untyped, "f64" | .float .untyped, "f64" => some (.float .f64)
    | _, _ => none

/-- Value of an operator on one literal. -/
def applyUnary? (operator : String) (l : Literal) : Option Literal :=
  match operator, l with
  | "-", .int value kind => if kind.isUnsigned then none else int? (-value) kind
  | "-", .float kind => some (.float kind)
  | "!", .bool value => some (.bool !value)
  | "~", .int value .u32 => int? (0xFFFFFFFF - value) .u32
  | "~", .int value .u64 => int? (0xFFFFFFFFFFFFFFFF - value) .u64
  | "~", .int value kind => int? (-value - 1) kind
  | _, _ => none

/-- Result of an operator on two whole numbers; division is rounded towards zero. -/
def arithmetic? (operator : String) (a b : Int) : Option Int :=
  match operator with
  | "+" => some (a + b)
  | "-" => some (a - b)
  | "*" => some (a * b)
  | "/" => if b = 0 then none else some (a.tdiv b)
  | "%" => if b = 0 then none else some (a.tmod b)
  | _ => none

def isArithmetic (operator : String) : Bool :=
  ["+", "-", "*", "/", "%"].contains operator

/-- Value of an arithmetic operator on two literals. -/
def applyArithmetic? (operator : String) (left right : Literal) : Option Literal :=
  match left, right with
  | .int a j, .int b k => do
    let kind ← j.join? k
    int? (← arithmetic? operator a b) kind
  | .float j, .float k => (j.join? k).map .float
  | .float j, .int _ .untyped | .int _ .untyped, .float j => some (.float j)
  | _, _ => none

end Literal

/-- Value of an expression, if it is known. -/
def Expr.value (constants : Constants) : Expr → Except Rejection (Option Literal)
  | .literal value => .ok (some value)
  | .named name =>
    match constants.lookup name with
    | some value? => .ok value?
    | none => .error (.misused name)
  | .call function _ =>
    if builtinFunctions.contains function then .ok none else .error (.misused function)
  | .unary operator operand => do
    match ← operand.value constants with
    | none => return none
    | some value =>
      match value.applyUnary? operator with
      | some value => return some value
      | none => throw (.operand operator)
  | .binary operator left right => do
    match ← left.value constants, ← right.value constants with
    | some l, some r =>
      if !Literal.isArithmetic operator then return none
      else
        match Literal.applyArithmetic? operator l r with
        | some value => return some value
        | none => throw (.operand operator)
    | _, _ => return none
  | .construct _ _ | .member _ _ | .index _ _ => .ok none

/-- Value of the constant `name`, which its declared type has to have. -/
def constantValue (constants : Constants) (name : String) (type? : Option TypeExpr) (value : Expr) :
    Except Rejection (Option Literal) := do
  match type?, ← value.value constants with
  | some (.named type []), some literal =>
    match literal.convert? type with
    | some literal => return some literal
    | none => throw (.mismatch name)
  | some _, some _ => throw (.mismatch name)
  | _, literal? => return literal?

/-- A literal as a whole number of 32 bits; without a type it has a sign. -/
def Literal.word? : Literal → Option Int
  | .int value .untyped => if IntKind.i32.holds value then some value else none
  | .int value .i32 | .int value .u32 => some value
  | _ => none

/-- Value of an expression that has to be a whole number of 32 bits from `low` on and below `high`. -/
def Expr.natural? (constants : Constants) (low high : Nat) (e : Expr) : Option Nat := do
  let number ← (e.value constants).toOption.join
  let value ← number.word?
  if low ≤ value ∧ value < high then some value.toNat else none

end Offload.Shader
