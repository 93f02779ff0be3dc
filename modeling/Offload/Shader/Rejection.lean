import Offload.Shader.Token

/-!
# Rejections

Why the front end does not accept a shader.
-/

namespace Offload.Shader

inductive Rejection where
  /-- A number is not well formed, or no type holds it. -/
  | number
  /-- The text goes on with a token that cannot be there, or ends too early. -/
  | unexpected (token? : Option Token)
  /-- Parts of the text are too deep inside each other. -/
  | tooDeep
  | badName (name : String)
  | redeclared (name : String)
  | undeclared (name : String)
  /-- A name of one kind stands where another kind is asked for. -/
  | misused (name : String)
  /-- A declaration depends on itself. -/
  | cyclic (name : String)
  | attribute (name : String)
  | type (name : String)
  /-- A variable that its memory or its binding does not allow. -/
  | variable (name : String)
  | notAssignable (name : String)
  | operand (operator : String)
  /-- A value has no such part. -/
  | part (text : String)
  /-- A value is not of the type that is asked for. -/
  | mismatch (name : String)
  | entryPoint (name : String)
  | workgroupSize (name : String)
  /-- An entry point uses two variables with one binding. -/
  | bindingCollision (name : String)
  deriving DecidableEq, Repr

namespace Rejection

def message : Rejection → String
  | .number => "error: a number is not well formed"
  | .unexpected (some token) => s!"error: unexpected '{token.text}'"
  | .unexpected none => "error: unexpected end of source"
  | .tooDeep => "error: parts are too deep inside each other"
  | .badName name => s!"error: '{name}' cannot be declared"
  | .redeclared name => s!"error: '{name}' is declared twice"
  | .undeclared name => s!"error: '{name}' is not declared"
  | .misused name => s!"error: '{name}' cannot be used like this"
  | .cyclic name => s!"error: '{name}' depends on itself"
  | .attribute name => s!"error: attribute '{name}' is unknown or not complete"
  | .type name => s!"error: '{name}' has no such type"
  | .variable name => s!"error: variable '{name}' cannot be declared like this"
  | .notAssignable name => s!"error: '{name}' cannot be assigned to"
  | .operand operator => s!"error: operands do not fit '{operator}'"
  | .part text => s!"error: a value has no part '{text}'"
  | .mismatch name => s!"error: a value of another type is given to '{name}'"
  | .entryPoint name => s!"error: '{name}' is not an entry point of its stage"
  | .workgroupSize name => s!"error: '{name}' has no work-group size"
  | .bindingCollision name => s!"error: '{name}' uses two variables with one binding"

end Rejection

end Offload.Shader
