import Offload.Shader.Literal
import Offload.Shader.Module
import Offload.Shader.Names

/-!
# Syntax of shaders

A shader is a list of declarations in any order. Of a function body the steps are kept that matter
for names and types: scopes, bindings, uses and assignments.
-/

namespace Offload.Shader

/-- A type with its arguments, which may be types, names of constants or numbers. -/
inductive TypeExpr where
  | named (name : String) (arguments : List TypeExpr)
  | number (value : Literal)

/-- Whether the word in front is one that means a type. -/
def TypeExpr.isTypeWord : TypeExpr → Bool
  | .named name _ => Shader.isTypeWord name
  | .number _ => false

inductive Expr where
  | literal (value : Literal)
  | named (name : String)
  /-- A call of a function that is built in or declared. -/
  | call (function : String) (arguments : List Expr)
  /-- A value of a type. -/
  | construct (type : TypeExpr) (arguments : List Expr)
  | member (base : Expr) (field : String)
  | index (base position : Expr)
  | unary (operator : String) (operand : Expr)
  | binary (operator : String) (left right : Expr)

/-- How a local name is declared. -/
inductive LocalKind where
  | constant
  | value
  | variable
  deriving DecidableEq, Repr

/-- A step of a function body. The body itself is entered with the parameters. -/
inductive Step where
  | enter
  | leave
  /-- Makes a name known up to the end of its scope. -/
  | bind (name : String) (kind : LocalKind) (type? : Option TypeExpr) (value? : Option Expr)
  | use (value : Expr)
  /-- Changes the target, to a value or by one. -/
  | assign (target : Expr) (value? : Option Expr)
  /-- Ends the function. -/
  | give (value? : Option Expr)

structure Attribute where
  name : String
  arguments : List Expr

structure Parameter where
  attributes : List Attribute
  name : String
  type : TypeExpr

structure Result where
  attributes : List Attribute
  type : TypeExpr

inductive Declaration where
  | const (name : String) (type? : Option TypeExpr) (value : Expr)
  | variable (attributes : List Attribute) (space : Space) (name : String) (type : TypeExpr)
      (value? : Option Expr)
  | function (attributes : List Attribute) (name : String) (parameters : List Parameter)
      (result? : Option Result) (body : List Step)

def Declaration.name : Declaration → String
  | .const name _ _ => name
  | .variable _ _ name _ _ => name
  | .function _ name _ _ _ => name

/-- What a name is used as. -/
inductive Usage where
  /-- A type that is built in, which no declaration hides. -/
  | builtin
  | type
  | function
  | value
  /-- Memory that is assigned to. -/
  | target
  deriving DecidableEq, Repr

/-- A use of a name. -/
structure Mention where
  name : String
  usage : Usage
  deriving DecidableEq, Repr

/-- Whether a mention may be one of a declaration. -/
def Mention.isOpen (m : Mention) : Bool :=
  m.usage != .builtin

/-- Whether a mention is one of a type with values of 64 bits. -/
def Mention.isWide (m : Mention) : Bool :=
  !m.isOpen && wideTypes.contains m.name

/-- The use of a name as a type. -/
def mentionOfType (name : String) : Mention :=
  ⟨name, if isTypeWord name then .builtin else .type⟩

/-- The use of the type that a literal names. -/
def Literal.mentions (l : Literal) : List Mention :=
  l.typeName?.toList.map mentionOfType

mutual

/-- Names in a type, in order. -/
def TypeExpr.mentions : TypeExpr → List Mention
  | .named name arguments => mentionOfType name :: mentionsOfTypes arguments
  | .number value => value.mentions

def mentionsOfTypes : List TypeExpr → List Mention
  | [] => []
  | t :: rest => t.mentions ++ mentionsOfTypes rest

end

mutual

/-- Names in an expression, in order. -/
def Expr.mentions : Expr → List Mention
  | .literal value => value.mentions
  | .named name => [⟨name, .value⟩]
  | .call function arguments => ⟨function, .function⟩ :: mentionsOfExprs arguments
  | .construct type arguments => type.mentions ++ mentionsOfExprs arguments
  | .member base _ => base.mentions
  | .index base position => base.mentions ++ position.mentions
  | .unary _ operand => operand.mentions
  | .binary _ left right => left.mentions ++ right.mentions

def mentionsOfExprs : List Expr → List Mention
  | [] => []
  | e :: rest => e.mentions ++ mentionsOfExprs rest

end

/-- The name whose memory an expression is a part of. -/
def Expr.root? : Expr → Option String
  | .named name => some name
  | .member base _ => base.root?
  | .index base _ => base.root?
  | _ => none

end Offload.Shader
