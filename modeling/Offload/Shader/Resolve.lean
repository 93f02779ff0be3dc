import Offload.Shader.Names
import Offload.Shader.Rejection
import Offload.Shader.Syntax

/-!
# Name resolution

Which declarations a declaration depends on, and an order in which each comes after those it depends
on. Local names hide declarations of the same name.
-/

namespace Offload.Shader

/-- Local names with whether they can be assigned to, by scope, innermost first. -/
abbrev Scopes : Type := List (List (String × Bool))

namespace Scopes

def find? (scopes : Scopes) (name : String) : Option Bool :=
  scopes.flatten.lookup name

/-- Makes a name known in the innermost scope. -/
def bind (scopes : Scopes) (name : String) (assignable : Bool) : Except Rejection Scopes :=
  match scopes with
  | [] => .error (.badName name)
  | scope :: outer =>
    if !isDeclarable name then .error (.badName name)
    else if (scope.lookup name).isSome then .error (.redeclared name)
    else .ok (((name, assignable) :: scope) :: outer)

end Scopes

/-- Mentions that are not of local names. -/
def outerMentions (scopes : Scopes) (mentions : List Mention) : List Mention :=
  mentions.filter fun m => !m.isOpen || (scopes.find? m.name).isNone

/-- The memory that an assignment changes, if it is not local. Local names that are no variables
cannot be assigned to. -/
def assignedMention (scopes : Scopes) (target : Expr) : Except Rejection (List Mention) :=
  match target.root? with
  | none => .ok []
  | some root =>
    match scopes.find? root with
    | some true => .ok []
    | some false => .error (.notAssignable root)
    | none => .ok [⟨root, .target⟩]

/-- Mentions in an optional part. -/
def mentionsIn {α : Type} (mentions : α → List Mention) (part? : Option α) : List Mention :=
  (part?.map mentions).getD []

/-- Mentions in a function body, in order. -/
def bodyMentions (scopes : Scopes) : List Step → Except Rejection (List Mention)
  | [] => .ok []
  | .enter :: rest => bodyMentions ([] :: scopes) rest
  | .leave :: rest => bodyMentions scopes.tail rest
  | .bind name kind type? value? :: rest => do
    let own := mentionsIn TypeExpr.mentions type? ++ mentionsIn Expr.mentions value?
    return outerMentions scopes own ++
      (← bodyMentions (← scopes.bind name (kind == .variable)) rest)
  | .use value :: rest => do
    return outerMentions scopes value.mentions ++ (← bodyMentions scopes rest)
  | .give value? :: rest => do
    return outerMentions scopes (mentionsIn Expr.mentions value?) ++ (← bodyMentions scopes rest)
  | .assign target value? :: rest => do
    let own := target.mentions ++ mentionsIn Expr.mentions value?
    return outerMentions scopes own ++ (← assignedMention scopes target) ++
      (← bodyMentions scopes rest)

/-- Attributes whose arguments are values; those of the others are words of their own. -/
def valueAttributes : List String := ["binding", "group", "location", "workgroup_size"]

def attributeMentions (attributes : List Attribute) : List Mention :=
  attributes.flatMap fun a =>
    if valueAttributes.contains a.name then mentionsOfExprs a.arguments else []

/-- Parameters as the outermost scope of a function body. -/
def parameterScope (parameters : List Parameter) : Except Rejection Scopes :=
  parameters.foldlM (fun scopes p => scopes.bind p.name false) [[]]

/-- What a declaration uses from outside, in order. -/
def Declaration.mentions : Declaration → Except Rejection (List Mention)
  | .const _ type? value =>
    .ok (mentionsIn TypeExpr.mentions type? ++ value.mentions)
  | .variable attributes _ _ type value? =>
    .ok (attributeMentions attributes ++ type.mentions ++ mentionsIn Expr.mentions value?)
  | .function attributes _ parameters result? body => do
    let header := attributeMentions attributes ++
      (parameters.flatMap fun p => attributeMentions p.attributes ++ p.type.mentions) ++
      mentionsIn (fun r => attributeMentions r.attributes ++ r.type.mentions) result?
    return header ++ (← bodyMentions (← parameterScope parameters) body)

/-- A declaration with the names it uses that may be declared. -/
structure Entry where
  declaration : Declaration
  mentions : List Mention
  /-- It uses values of 64 bits. -/
  wide : Bool

def Entry.of (d : Declaration) : Except Rejection Entry := do
  let mentions ← d.mentions
  return ⟨d, mentions.filter Mention.isOpen, mentions.any Mention.isWide⟩

def Entry.name (e : Entry) : String := e.declaration.name

/-- Declarations of one shader. -/
abbrev Table : Type := List Entry

namespace Table

def find? (t : Table) (name : String) : Option Entry :=
  List.find? (fun e => e.name == name) t

/-- Adds a declaration with a name of its own. -/
def add (t : Table) (d : Declaration) : Except Rejection Table := do
  if !isDeclarable d.name then throw (.badName d.name)
  if (t.find? d.name).isSome then throw (.redeclared d.name)
  return t ++ [← Entry.of d]

def ofList (declarations : List Declaration) : Except Rejection Table :=
  declarations.foldlM add []

/-- Whether a declaration can be used in this way. -/
def isUsable (d : Declaration) (usage : Usage) : Bool :=
  match d, usage with
  | .const .., .value => true
  | .const .., .type => true
  | .variable .., .value => true
  | .variable _ (.storage writable) .., .target => writable
  | .variable _ .workgroup .., .target => true
  | .variable _ .item .., .target => true
  | .function .., .function => true
  | _, _ => false

/-- Whether a name can be used in this way without a declaration. -/
def isKnown (name : String) (usage : Usage) : Bool :=
  match usage with
  | .builtin => true
  | .function => builtinFunctions.contains name
  | .type | .value | .target => false

/-- Whether a mention is one of what it can be. -/
def checkMention (t : Table) (m : Mention) : Except Rejection Unit :=
  match t.find? m.name with
  | some e => if isUsable e.declaration m.usage then .ok () else .error (.misused m.name)
  | none => if isKnown m.name m.usage then .ok () else .error (.undeclared m.name)

/-- Declarations that the declaration `name` mentions. -/
def dependencies (t : Table) (name : String) : List String :=
  match t.find? name with
  | some e => (e.mentions.map Mention.name).filter fun d => (t.find? d).isSome
  | none => []

/-- Puts `name` after what it depends on, unless it is `placed` already. The declarations on the
`path` wait for it and must not be met again. -/
def place (t : Table) : Nat → List String → List String → String → Except Rejection (List String)
  | 0, _, _, name => .error (.cyclic name)
  | fuel + 1, path, placed, name =>
    if placed.contains name then .ok placed
    else if path.contains name then .error (.cyclic name)
    else do
      let before ← (t.dependencies name).foldlM (fun placed d => place t fuel (name :: path) placed d)
        placed
      return before ++ [name]

/-- The declarations in an order in which each comes after those it depends on; declarations that do
not depend on each other keep their order. -/
def dependencyOrder (t : Table) : Except Rejection (List Entry) := do
  let names ← t.foldlM (fun placed e => t.place (t.length + 1) [] placed e.name) []
  return names.filterMap t.find?

end Table

end Offload.Shader
