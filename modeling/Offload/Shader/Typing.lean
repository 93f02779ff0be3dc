import Offload.Shader.Names
import Offload.Shader.Rejection
import Offload.Shader.Syntax

/-!
# Typing

Types of values in function bodies. The type of an expression may not be known here; what is known
has to fit where it is used.
-/

namespace Offload.Shader

inductive ValueType where
  /-- Whole numbers and floating point numbers that take the type their use asks for. -/
  | untypedInt
  | untypedFloat
  | scalar (name : String)
  | vector (size : Nat) (element : String)
  | array (element : ValueType)
  /-- Textures and samplers, which only functions look into. -/
  | resource
  deriving DecidableEq, Repr

namespace ValueType

/-- Size of a vector type, by its name. -/
def vectorSize? (name : String) : Option Nat :=
  [("vec2", 2), ("vec3", 3), ("vec4", 4)].lookup name

/-- Vector types that have their element type in the name. -/
def namedVector? (name : String) : Option ValueType :=
  [("vec2f", vector 2 "f32"), ("vec2i", vector 2 "i32"), ("vec2u", vector 2 "u32"),
   ("vec3f", vector 3 "f32"), ("vec3i", vector 3 "i32"), ("vec3u", vector 3 "u32"),
   ("vec4f", vector 4 "f32"), ("vec4i", vector 4 "i32"), ("vec4u", vector 4 "u32")].lookup name

/-- The type with a name of its own. -/
def ofName? (name : String) : Option ValueType :=
  if scalarTypes.contains name then some (scalar name)
  else if plainResourceTypes.contains name then some resource
  else namedVector? name

/-- Whether values of type `t` can be given where `target` is asked for. -/
def fits (t target : ValueType) : Bool :=
  t == target ||
    match t, target with
    | untypedInt, untypedFloat => true
    | untypedInt, scalar name => name != "bool"
    | untypedFloat, scalar name => floatTypes.contains name
    | _, _ => false

/-- The type that both of two types fit. -/
def join? (t u : ValueType) : Option ValueType :=
  if t.fits u then some u
  else if u.fits t then some t
  else none

/-- The type of an operation on each component; a single number goes with every component. -/
def componentwise? (t u : ValueType) : Option ValueType :=
  match t, u with
  | vector size element, vector _ _ => if t = u then some (vector size element) else none
  | vector size element, u => if u.fits (scalar element) then some (vector size element) else none
  | t, vector size element => if t.fits (scalar element) then some (vector size element) else none
  | t, u => t.join? u

/-- The type that a value without a type gets when it is stored. -/
def stored : ValueType → ValueType
  | untypedInt => scalar "i32"
  | untypedFloat => scalar "f32"
  | t => t

/-- Whether values of the type are numbers, or vectors of numbers. -/
def isNumeric : ValueType → Bool
  | untypedInt | untypedFloat => true
  | scalar name => name != "bool"
  | vector _ element => element != "bool"
  | array _ | resource => false

/-- Whether values of the type are whole numbers. -/
def isWhole : ValueType → Bool
  | untypedInt => true
  | scalar name => integerTypes.contains name
  | _ => false

/-- Type of the elements, if a value of the type has any. -/
def element? : ValueType → Option ValueType
  | vector _ element => some (scalar element)
  | array element => some element
  | _ => none

/-- Type of the components that `field` picks from a vector. All are named in one of two ways. -/
def component? (t : ValueType) (field : String) : Option ValueType :=
  match t with
  | vector size element =>
    let picks (names : String) := field.toList.all (names.toList.take size).contains
    if !(picks "xyzw" || picks "rgba") then none
    else
      match field.length with
      | 1 => some (scalar element)
      | 2 | 3 | 4 => some (vector field.length element)
      | _ => none
  | _ => none

/-- Type of the components, of which the type itself may be the only one. -/
def componentType (t : ValueType) : ValueType :=
  match t with
  | vector _ element => scalar element
  | t => t

/-- What a comparison gives: a truth value for each component. -/
def comparison : ValueType → ValueType
  | vector size _ => vector size "bool"
  | _ => scalar "bool"

/-- Whether values of the type, or their components, have no sign. -/
def isUnsigned (t : ValueType) : Bool :=
  t.componentType == scalar "u32" || t.componentType == scalar "u64"

/-- Type of an operator on one value, if there is such an operator. -/
def unary? (operator : String) (t : ValueType) : Option ValueType :=
  let applies := match operator with
    | "!" => t.componentType == scalar "bool"
    | "~" => t.componentType.isWhole
    | "-" => t.isNumeric && !t.isUnsigned
    | _ => false
  if applies then some t else none

/-- Type of an operator on two values, if there is such an operator. -/
def binary? (operator : String) (t u : ValueType) : Option ValueType :=
  match operator with
  | "+" | "-" | "*" | "/" | "%" =>
    if t.isNumeric && u.isNumeric then t.componentwise? u else none
  | "<" | ">" | "<=" | ">=" => if t.isNumeric then (t.join? u).map comparison else none
  | "==" | "!=" => (t.join? u).map comparison
  | "&&" | "||" => if t = scalar "bool" ∧ u = scalar "bool" then some t else none
  | "<<" | ">>" => some t
  | _ => t.join? u

end ValueType

/-- The type that is written, if its values have one that is known here. -/
def TypeExpr.valueType? : TypeExpr → Option ValueType
  | .named name [] => ValueType.ofName? name
  | .named "array" (element :: _) => element.valueType?.map .array
  | .named name [.named element []] =>
    if sampledTypes.contains name then some .resource
    else if scalarTypes.contains element then
      (ValueType.vectorSize? name).map (.vector · element)
    else none
  | _ => none

def Literal.valueType : Literal → ValueType
  | .bool _ => .scalar "bool"
  | .int _ kind => (kind.name?.map .scalar).getD .untypedInt
  | .float kind => (kind.name?.map .scalar).getD .untypedFloat

/-- Types of names by scope, innermost first. A name can have a type that is not known. -/
abbrev TypeScopes : Type := List (List (String × Option ValueType))

namespace TypeScopes

def find? (scopes : TypeScopes) (name : String) : Option ValueType :=
  (scopes.flatten.lookup name).join

/-- Gives a type to a name in the innermost scope. -/
def bind (scopes : TypeScopes) (name : String) (type? : Option ValueType) : TypeScopes :=
  match scopes with
  | [] => [[(name, type?)]]
  | scope :: outer => ((name, type?) :: scope) :: outer

end TypeScopes

/-- What an operation gives on types that may not be known. -/
def onKnown {α : Type} (cause : Rejection) (operation : α → Option ValueType) :
    Option α → Except Rejection (Option ValueType)
  | none => .ok none
  | some t =>
    match operation t with
    | some result => .ok (some result)
    | none => .error cause

mutual

/-- The type of an expression, if it is known. -/
def Expr.type (scopes : TypeScopes) : Expr → Except Rejection (Option ValueType)
  | .literal value => .ok (some value.valueType)
  | .named name => .ok (scopes.find? name)
  | .call _ arguments => do
    checkValues scopes arguments
    return none
  | .construct type arguments => do
    checkValues scopes arguments
    return type.valueType?
  | .member base field => do
    onKnown (.part field) (·.component? field) (← base.type scopes)
  | .index base position => do
    let base? ← base.type scopes
    if (← position.type scopes).any (!·.isWhole) then throw (.part "[]")
    onKnown (.part "[]") ValueType.element? base?
  | .unary "&" operand | .unary "*" operand => do
    let _ ← operand.type scopes
    return none
  | .unary operator operand => do
    onKnown (.operand operator) (·.unary? operator) (← operand.type scopes)
  | .binary operator left right => do
    let left? ← left.type scopes
    let right? ← right.type scopes
    onKnown (.operand operator) (fun (t, u) => ValueType.binary? operator t u)
      (do return (← left?, ← right?))

def checkValues (scopes : TypeScopes) : List Expr → Except Rejection Unit
  | [] => .ok ()
  | e :: rest => do
    let _ ← e.type scopes
    checkValues scopes rest

end

/-- Whether a value can be given to `name`, as far as both types are known. -/
def checkGiven (name : String) (target? value? : Option ValueType) : Except Rejection Unit :=
  match target?, value? with
  | some target, some value => if value.fits target then .ok () else .error (.mismatch name)
  | _, _ => .ok ()

/-- The type of a local name that is declared without one. -/
def localType (kind : LocalKind) (value? : Option ValueType) : Option ValueType :=
  if kind = .constant then value? else value?.map ValueType.stored

/-- The type of an expression that may be left out. -/
def optionalType (scopes : TypeScopes) : Option Expr → Except Rejection (Option ValueType)
  | some e => e.type scopes
  | none => .ok none

/-- What a function gives at its end, given the type of its result if it has one. -/
def checkResult (scopes : TypeScopes) (result? : Option TypeExpr) (value? : Option Expr) :
    Except Rejection Unit := do
  match result?, value? with
  | none, none => return ()
  | some result, some value => checkGiven "return" result.valueType? (← value.type scopes)
  | _, _ => throw (.mismatch "return")

/-- Checks the types in the body of a function with or without a result. -/
def checkBody (scopes : TypeScopes) (result? : Option TypeExpr) : List Step → Except Rejection Unit
  | [] => .ok ()
  | .enter :: rest => checkBody ([] :: scopes) result? rest
  | .leave :: rest => checkBody scopes.tail result? rest
  | .bind name kind type? value? :: rest => do
    let declared? := type?.bind TypeExpr.valueType?
    let given? ← optionalType scopes value?
    checkGiven name declared? given?
    let known? := if type?.isSome then declared? else localType kind given?
    checkBody (scopes.bind name known?) result? rest
  | .use value :: rest => do
    let _ ← value.type scopes
    checkBody scopes result? rest
  | .assign target value? :: rest => do
    let target? ← target.type scopes
    checkGiven (target.root?.getD "_") target? (← optionalType scopes value?)
    checkBody scopes result? rest
  | .give value? :: rest => do
    checkResult scopes result? value?
    checkBody scopes result? rest

/-- Whether a body gives a result somewhere. -/
def givesResult (body : List Step) : Bool :=
  body.any fun
    | .give value? => value?.isSome
    | _ => false

end Offload.Shader
