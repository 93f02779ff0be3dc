import Offload.Shader.Attribute

/-!
# Parsing shaders

Parsers take tokens from a list. They have fuel for nested calls, of which a text of `n` tokens needs
no more than `fuelFor n`. Apart from that, there is a limit to how deep the parts of a text can be
inside each other.
-/

namespace Offload.Shader

/-- How deep a parser is in the text. -/
structure Depth where
  /-- Statements, operands and types around. -/
  parts : Nat := 0
  /-- Braces around in the same function. -/
  braces : Nat := 1
  deriving DecidableEq, Repr

namespace Depth

def maxParts : Nat := 255

def maxBraces : Nat := 127

def isAllowed (d : Depth) : Bool :=
  d.parts ≤ maxParts && d.braces ≤ maxBraces

end Depth

/-- A parser takes tokens off a list. -/
abbrev Parser (α : Type) : Type := ReaderT Depth (StateT (List Token) (Except Rejection)) α

namespace Parser

/-- Runs a parser deeper in the text. -/
def deeper {α : Type} (depth : Depth) (p : Parser α) : Parser α := do
  unless depth.isAllowed do throw .tooDeep
  withReader (fun _ => depth) p

/-- Runs the parser of a statement, an operand or a type. -/
def part {α : Type} (p : Parser α) : Parser α := do
  let depth ← read
  deeper { depth with parts := depth.parts + 1 } p

/-- Runs the parser of what is in braces. -/
def inBraces {α : Type} (p : Parser α) : Parser α := do
  let depth ← read
  deeper { depth with braces := depth.braces + 1 } p

def peek : Parser (Option Token) := return (← get).head?

/-- Fails at the next token. -/
def unexpected {α : Type} : Parser α := do throw (.unexpected (← peek))

/-- The tokens that are left have this mark in front. -/
def atMark (text : String) : Parser Bool := return (← peek) == some (.mark text)

def next : Parser Token := do
  match ← get with
  | [] => unexpected
  | token :: rest => do
    set rest
    return token

/-- Takes the mark if it is there. -/
def skip? (text : String) : Parser Bool := do
  if ← atMark text then
    let _ ← next
    return true
  else
    return false

def mark (text : String) : Parser Unit := do
  unless ← skip? text do unexpected

/-- Takes a closing angle bracket if it is there. It may be written together with an equals sign. -/
def skipAngle? : Parser Bool := do
  match ← get with
  | .mark ">" :: rest => do
    set rest
    return true
  | .mark ">=" :: rest => do
    set (Token.mark "=" :: rest)
    return true
  | _ => return false

def word : Parser String := do
  match ← peek with
  | some (.word text) => do
    let _ ← next
    return text
  | _ => unexpected

/-- Takes the word if it is there. -/
def skipWord? (text : String) : Parser Bool := do
  if (← peek) == some (.word text) then
    let _ ← next
    return true
  else
    return false

end Parser

/-- Binding strength of an operator between two operands; a larger one binds tighter. -/
def strength? : String → Option Nat
  | "||" => some 1
  | "&&" => some 2
  | "|" => some 3
  | "^" => some 4
  | "&" => some 5
  | "==" | "!=" => some 6
  | "<" | ">" | "<=" | ">=" => some 7
  | "<<" | ">>" => some 8
  | "+" | "-" => some 9
  | "*" | "/" | "%" => some 10
  | _ => none

/-- The literal that a word stands for, if it is one. -/
def literalOfWord? (word : String) : Option Literal :=
  match word with
  | "true" => some (.bool true)
  | "false" => some (.bool false)
  | word => (rayNumbers.lookup word).map fun n => .int n .u32

def isUnary (mark : String) : Bool :=
  ["-", "!", "~", "&", "*"].contains mark

/-- The operator ahead, if there is one that binds at least as tight as `least`. -/
def operatorAhead? (least : Nat) (ahead : List Token) : Option (String × Nat) :=
  let operator? := match ahead with
    | .mark "<" :: .mark "<" :: _ => some "<<"
    | .mark ">" :: .mark ">" :: _ => some ">>"
    | .mark text :: _ => some text
    | _ => none
  do
    let operator ← operator?
    let strength ← strength? operator
    if least ≤ strength then some (operator, strength) else none

/-- What follows the operator ahead. -/
def afterOperator : List Token → List Token
  | .mark "<" :: .mark "<" :: rest => rest
  | .mark ">" :: .mark ">" :: rest => rest
  | ahead => ahead.tail

mutual

def parseType : Nat → Parser TypeExpr
  | 0 => Parser.unexpected
  | fuel + 1 => Parser.part do
    match ← Parser.next with
    | .number value => return .number value
    | .word name =>
      if ← Parser.skip? "<" then
        return .named name (← parseTypeArguments fuel)
      else
        return .named name []
    | token => throw (.unexpected token)

/-- Type arguments up to the closing bracket. -/
def parseTypeArguments : Nat → Parser (List TypeExpr)
  | 0 => Parser.unexpected
  | fuel + 1 => do
    let first ← parseType fuel
    if ← Parser.skip? "," then
      if ← Parser.skipAngle? then return [first]
      else return first :: (← parseTypeArguments fuel)
    else
      unless ← Parser.skipAngle? do Parser.unexpected
      return [first]

end

mutual

/-- An expression of operators that bind at least as tight as `least`. -/
def parseExpr : Nat → Nat → Parser Expr
  | 0, _ => Parser.unexpected
  | fuel + 1, least => do parseOperators fuel least (← parseUnary fuel)

/-- What follows an operand. -/
def parseOperators : Nat → Nat → Expr → Parser Expr
  | 0, _, _ => Parser.unexpected
  | fuel + 1, least, left => do
    match operatorAhead? least (← get) with
    | none => return left
    | some (operator, strength) => do
      modify afterOperator
      let right ← parseExpr fuel (strength + 1)
      parseOperators fuel least (.binary operator left right)

def parseUnary : Nat → Parser Expr
  | 0 => Parser.unexpected
  | fuel + 1 => Parser.part do
    match ← Parser.next with
    | .mark "(" => do
      let inner ← parseExpr fuel 0
      Parser.mark ")"
      parsePostfix fuel inner
    | .mark text => do
      if isUnary text then return .unary text (← parseUnary fuel)
      else throw (.unexpected (some (.mark text)))
    | .number value => parsePostfix fuel (.literal value)
    | .word name => do
      if let some value := literalOfWord? name then
        parsePostfix fuel (.literal value)
      else if halfTypes.contains name then
        throw (.unexpected (some (.word name)))
      else if constructors.contains name then do
        let generic := genericTypes.contains name && (← Parser.skip? "<")
        let type := .named name (← if generic then parseTypeArguments fuel else pure [])
        Parser.mark "("
        parsePostfix fuel (.construct type (← parseArguments fuel ")"))
      else if ← Parser.skip? "(" then
        parsePostfix fuel (.call name (← parseArguments fuel ")"))
      else
        parsePostfix fuel (.named name)

/-- Members and indices of a value. -/
def parsePostfix : Nat → Expr → Parser Expr
  | 0, _ => Parser.unexpected
  | fuel + 1, base => do
    if ← Parser.skip? "." then
      parsePostfix fuel (.member base (← Parser.word))
    else if ← Parser.skip? "[" then do
      let position ← parseExpr fuel 0
      Parser.mark "]"
      parsePostfix fuel (.index base position)
    else
      return base

/-- Arguments up to the closing bracket; a comma may follow the last one. -/
def parseArguments : Nat → String → Parser (List Expr)
  | 0, _ => Parser.unexpected
  | fuel + 1, close => do
    if ← Parser.skip? close then return []
    else
      let first ← parseExpr fuel 0
      if ← Parser.skip? "," then
        return first :: (← parseArguments fuel close)
      else
        Parser.mark close
        return [first]

end

/-- What an assignment changes. Every word in front of one is a name. -/
def parseTarget : Nat → Parser Expr
  | 0 => Parser.unexpected
  | fuel + 1 => Parser.part do
    match ← Parser.next with
    | .mark "(" => do
      let inner ← parseTarget fuel
      Parser.mark ")"
      parsePostfix fuel inner
    | .mark "&" => return .unary "&" (← parseTarget fuel)
    | .mark "*" => return .unary "*" (← parseTarget fuel)
    | .word name => parsePostfix fuel (.named name)
    | token => throw (.unexpected token)

/-- Arguments of an attribute: at least one, and no comma after the last. -/
def parseAttributeArguments : Nat → Parser (List Expr)
  | 0 => Parser.unexpected
  | fuel + 1 => do
    let first ← parseExpr fuel 0
    if ← Parser.skip? "," then
      return first :: (← parseAttributeArguments fuel)
    else
      Parser.mark ")"
      return [first]

def parseAttributes : Nat → Parser (List Attribute)
  | 0 => Parser.unexpected
  | fuel + 1 => do
    if ← Parser.skip? "@" then
      let name ← Parser.word
      let arguments ← if ← Parser.skip? "(" then parseAttributeArguments fuel else pure []
      return ⟨name, arguments⟩ :: (← parseAttributes fuel)
    else
      return []

/-- The type after a colon, if there is one. -/
def parseAnnotation (fuel : Nat) : Parser (Option TypeExpr) := do
  if ← Parser.skip? ":" then return some (← parseType fuel)
  else return none

/-- The value after an equals sign, if there is one. -/
def parseInitial (fuel : Nat) : Parser (Option Expr) := do
  if ← Parser.skip? "=" then return some (← parseExpr fuel 0)
  else return none

/-- Assignments that apply an operator to what is on their left, with that operator. -/
def operatorOfAssignment? (mark : String) : Option String :=
  [("+=", "+"), ("-=", "-"), ("*=", "*"), ("/=", "/"), ("%=", "%"), ("&=", "&"), ("|=", "|"),
   ("^=", "^")].lookup mark

/-- A local declaration after its keyword. A variable may go without a value. -/
def parseLocal (fuel : Nat) (kind : LocalKind) : Parser (List Step) := do
  let name ← Parser.word
  let type? ← parseAnnotation fuel
  let value? ← parseInitial fuel
  if value?.isNone && (kind != .variable || type?.isNone) then
    Parser.unexpected
  return [.bind name kind type? value?]

/-- The mark ahead, if there is one. -/
def markAhead? : List Token → Option String
  | .mark text :: _ => some text
  | _ => none

/-- An assignment after its target. -/
def parseAssignment (fuel : Nat) (target : Expr) : Parser (List Step) := do
  match markAhead? (← get) with
  | some "++" | some "--" => do
    let _ ← Parser.next
    return [.assign target none]
  | some "=" => do
    let _ ← Parser.next
    return [.assign target (some (← parseExpr fuel 0))]
  | some text =>
    match operatorOfAssignment? text with
    | some operator => do
      let _ ← Parser.next
      return [.assign target (some (.binary operator target (← parseExpr fuel 0)))]
    | none => Parser.unexpected
  | none => Parser.unexpected

/-- A declaration, assignment or call, as it stands in a loop head or before a semicolon. -/
def parseSimple (fuel : Nat) : Parser (List Step) := do
  match ← get with
  | .word "let" :: rest => do
    set rest
    parseLocal fuel .value
  | .word "const" :: rest => do
    set rest
    parseLocal fuel .constant
  | .word "var" :: rest => do
    set rest
    parseLocal fuel .variable
  | .word "_" :: .mark "=" :: rest => do
    set rest
    return [.use (← parseExpr fuel 0)]
  | .word function :: .mark "(" :: rest => do
    set rest
    return [.use (.call function (← parseArguments fuel ")"))]
  | _ => do parseAssignment fuel (← parseTarget fuel)

mutual

/-- Statements in braces, in a scope of their own. -/
def parseBlock : Nat → Parser (List Step)
  | 0 => Parser.unexpected
  | fuel + 1 => do
    Parser.mark "\x7b"
    return .enter :: (← Parser.inBraces (parseStatements fuel))

/-- Statements up to the closing brace. -/
def parseStatements : Nat → Parser (List Step)
  | 0 => Parser.unexpected
  | fuel + 1 => do
    if ← Parser.skip? "\x7d" then return [.leave]
    else
      let first ← parseStatement fuel
      return first ++ (← parseStatements fuel)

def parseStatement : Nat → Parser (List Step)
  | 0 => Parser.unexpected
  | fuel + 1 => Parser.part do
    match ← get with
    | .mark ";" :: rest => do
      set rest
      return []
    | .mark "\x7b" :: _ => parseBlock fuel
    | .word "if" :: rest => do
      set rest
      parseIf fuel
    | .word "while" :: rest => do
      set rest
      let condition ← parseExpr fuel 0
      return .use condition :: (← parseBlock fuel)
    | .word "for" :: rest => do
      set rest
      parseFor fuel
    | .word "return" :: rest => do
      set rest
      if ← Parser.skip? ";" then return [.give none]
      else
        let value ← parseExpr fuel 0
        Parser.mark ";"
        return [.give (some value)]
    | .word "break" :: rest | .word "continue" :: rest | .word "discard" :: rest => do
      set rest
      Parser.mark ";"
      return []
    | _ => do
      let steps ← parseSimple fuel
      Parser.mark ";"
      return steps

/-- A condition with its blocks, after its keyword. -/
def parseIf : Nat → Parser (List Step)
  | 0 => Parser.unexpected
  | fuel + 1 => do
    let condition ← parseExpr fuel 0
    let taken ← parseBlock fuel
    return .use condition :: taken ++ (← parseElse fuel)

/-- What may follow the block of a condition. -/
def parseElse : Nat → Parser (List Step)
  | 0 => Parser.unexpected
  | fuel + 1 => do
    if ← Parser.skipWord? "else" then
      if ← Parser.skipWord? "if" then parseIf fuel
      else parseBlock fuel
    else
      return []

/-- A counting loop after its keyword. Its head belongs to the scope of the loop. -/
def parseFor : Nat → Parser (List Step)
  | 0 => Parser.unexpected
  | fuel + 1 => do
    Parser.mark "("
    let start ← if ← Parser.atMark ";" then pure [] else parseSimple fuel
    Parser.mark ";"
    let condition ←
      if ← Parser.atMark ";" then pure [] else pure [.use (← parseExpr fuel 0)]
    Parser.mark ";"
    let update ← if ← Parser.atMark ")" then pure [] else parseSimple fuel
    Parser.mark ")"
    let body ← parseBlock fuel
    return .enter :: start ++ condition ++ update ++ body ++ [.leave]

end

/-- The access of storage after a comma, if one is given. -/
def parseAccess : Parser Space := do
  if ← Parser.skip? "," then
    match ← Parser.word with
    | "read" => return .storage false
    | "read_write" => return .storage true
    | access => throw (.unexpected (some (.word access)))
  else
    return .storage false

/-- The place of a variable in angle brackets, if it is given. -/
def parseSpace : Parser Space := do
  if ← Parser.skip? "<" then
    let space ← match ← Parser.word with
      | "storage" => parseAccess
      | "uniform" => pure .uniform
      | "workgroup" => pure .workgroup
      | "private" => pure .item
      | name => throw (.unexpected (some (.word name)))
    Parser.mark ">"
    return space
  else
    return .handle

/-- Parameters up to the closing parenthesis; a comma may follow the last one. -/
def parseParameters : Nat → Parser (List Parameter)
  | 0 => Parser.unexpected
  | fuel + 1 => do
    if ← Parser.skip? ")" then return []
    else
      let attributes ← parseAttributes fuel
      let name ← Parser.word
      Parser.mark ":"
      let first := ⟨attributes, name, ← parseType fuel⟩
      if ← Parser.skip? "," then
        return first :: (← parseParameters fuel)
      else
        Parser.mark ")"
        return [first]

def parseResult (fuel : Nat) : Parser (Option Result) := do
  if ← Parser.skip? "->" then
    let attributes ← parseAttributes fuel
    return some ⟨attributes, ← parseType fuel⟩
  else
    return none

/-- One declaration after its attributes. There is none before a semicolon or at the end. -/
def parseDeclaration (fuel : Nat) : Parser (Option Declaration) := do
  let attributes ← parseAttributes fuel
  checkDeclarationAttributes attributes
  if (← get).isEmpty then return none
  let token ← Parser.next
  if isBound attributes && token != .word "var" then throw (.unexpected (some token))
  match token with
  | .mark ";" => return none
  | .word "const" => do
    let name ← Parser.word
    let type? ← parseAnnotation fuel
    Parser.mark "="
    let value ← parseExpr fuel 0
    Parser.mark ";"
    return some (.const name type? value)
  | .word "var" => do
    let space ← parseSpace
    let name ← Parser.word
    Parser.mark ":"
    let type ← parseType fuel
    let value? ← parseInitial fuel
    Parser.mark ";"
    return some (.variable attributes space name type value?)
  | .word "fn" => do
    let name ← Parser.word
    Parser.mark "("
    let parameters ← parseParameters fuel
    let result? ← parseResult fuel
    Parser.mark "\x7b"
    return some (.function attributes name parameters result? (← parseStatements fuel))
  | token => throw (.unexpected (some token))

/-- Declarations up to the end. -/
def parseDeclarations (depth : Nat) : Nat → Parser (List Declaration)
  | 0 => Parser.unexpected
  | fuel + 1 => do
    if (← get).isEmpty then return []
    else
      match ← parseDeclaration depth with
      | some first => return first :: (← parseDeclarations depth fuel)
      | none => parseDeclarations depth fuel

/-- Enough fuel for a text of `n` tokens: no token is the cause of more than eight nested calls. -/
def fuelFor (n : Nat) : Nat := 8 * n + 8

/-- The declarations of a shader. -/
def parse (tokens : List Token) : Except Rejection (List Declaration) :=
  let fuel := fuelFor tokens.length
  (parseDeclarations fuel fuel {} tokens).map (·.1)

end Offload.Shader
