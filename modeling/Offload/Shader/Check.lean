import Offload.Shader.Attribute
import Offload.Shader.Constant
import Offload.Shader.Parse
import Offload.Shader.Resolve
import Offload.Shader.Typing

/-!
# Checking shaders

What makes a parsed shader valid: its variables fit their memory, its entry points their stage, and
no entry point meets two variables with one binding. Declarations are constants, variables and
functions; a shader with others is not accepted. This is a front end to run programs with. What is
proved of devices holds behind any front end.
-/

namespace Offload.Shader

/-- How values of a type lie in memory. -/
inductive Layout where
  | sized
  /-- An array whose length the bound buffer decides. -/
  | unsized
  /-- Values that cannot be shared with the host. -/
  | hidden
  | resource
  deriving DecidableEq, Repr

/-- Layout of a type without arguments. -/
def plainLayout? (name : String) : Option Layout :=
  if name = "bool" then some .hidden
  else if plainResourceTypes.contains name then some .resource
  else if (scalarTypes ++ vectorTypes ++ namedMatrixTypes).contains name then some .sized
  else none

/-- Layout of a type that takes the type of a scalar. -/
def scalarLayout? (name scalar : String) : Option Layout :=
  if genericVectorTypes.contains name && scalarTypes.contains scalar then plainLayout? scalar
  else if matrixTypes.contains name && floatTypes.contains scalar then some .sized
  else if name == "atomic" && integerTypes.contains scalar then some .sized
  else if sampledTypes.contains name && ["f32", "i32", "u32"].contains scalar then some .resource
  else none

/-- Layout of an array of elements with a layout. -/
def arrayLayout? (counted : Bool) : Layout → Option Layout
  | .sized => some (if counted then .sized else .unsized)
  | .hidden => if counted then some .hidden else none
  | .unsized | .resource => none

/-- Layout of a type, if there is such a type. -/
def TypeExpr.layout? : TypeExpr → Option Layout
  | .named name [] => plainLayout? name
  | .named "array" [element] => do arrayLayout? false (← element.layout?)
  | .named "array" [element, count] => do
    if count.isTypeWord then none else arrayLayout? true (← element.layout?)
  | .named name [.named scalar []] => scalarLayout? name scalar
  | _ => none

/-- The one argument of an attribute as a number. -/
def attributeNumber? (constants : Constants) (attributes : List Attribute) (name : String) :
    Option Nat := do
  let a ← attributes.find? (·.name == name)
  match a.arguments with
  | [value] => value.natural? constants 0 0x100000000
  | _ => none

/-- Whether a variable of this layout can live there, with or without a binding. -/
def fits (space : Space) (layout : Layout) (bound initialized : Bool) : Bool :=
  match space with
  | .handle => layout == .resource && bound && !initialized
  | .storage _ => (layout == .sized || layout == .unsized) && bound && !initialized
  | .uniform => layout == .sized && bound && !initialized
  | .workgroup => (layout == .sized || layout == .hidden) && !bound && !initialized
  | .item => (layout == .sized || layout == .hidden) && !bound

def checkVariable (constants : Constants) (attributes : List Attribute) (space : Space)
    (name : String) (type : TypeExpr) (value? : Option Expr) : Except Rejection Variable := do
  let some layout := type.layout? | throw (.type name)
  let group? := attributeNumber? constants attributes "group"
  let number? := attributeNumber? constants attributes "binding"
  let binding? := do return (← group?, ← number?)
  if isBound attributes && binding?.isNone then throw (.attribute name)
  unless fits space layout binding?.isSome value?.isSome do throw (.variable name)
  return ⟨some name, space, binding?⟩

/-- The largest size a work group can have on one axis. -/
def maxWorkgroupSize : Nat := 0x4000

/-- Sizes of the work groups of an entry point; those that are left out are one. -/
def workgroupSize (constants : Constants) (name : String) (sizes : List Expr) :
    Except Rejection Axes :=
  match sizes.mapM (·.natural? constants 1 (maxWorkgroupSize + 1)) with
  | some values =>
    if values.isEmpty ∨ 3 < values.length then .error (.workgroupSize name)
    else .ok (.ofList values)
  | none => .error (.workgroupSize name)

/-- A type that `name` can have. -/
def checkType (name : String) (type : TypeExpr) : Except Rejection Unit :=
  if type.layout?.isSome then .ok () else .error (.type name)

/-- A parameter or result with the attributes that connect it with the stages around. -/
def checkTyped (attributes : List Attribute) (name : String) (type : TypeExpr) :
    Except Rejection Unit := do
  connectionAttributes.check attributes
  checkType name type

/-- Built-in values that tell a work item its place, with their types. -/
def placeValues : List (String × ValueType) :=
  [("global_invocation_id", .vector 3 "u32"), ("local_invocation_id", .vector 3 "u32"),
   ("local_invocation_index", .scalar "u32"), ("num_workgroups", .vector 3 "u32"),
   ("workgroup_id", .vector 3 "u32")]

/-- The built-in value that a parameter of a compute entry point takes, if it is one for it. -/
def placeValue? (p : Parameter) : Option String :=
  match p.attributes with
  | [a] => (placeValues.find? fun (value, type) =>
      isBuiltinValue value a && p.type.valueType? == some type).map (·.1)
  | _ => none

/-- Whether the parameters of a compute entry point take values for it, each at most once. -/
def arePlaceParameters (parameters : List Parameter) : Bool :=
  match parameters.mapM placeValue? with
  | some values => decide values.Nodup
  | none => false

/-- Types in the body of a function, which gives its result if it has one. -/
def checkTypes (types : TypeScopes) (name : String) (parameters : List Parameter)
    (result? : Option Result) (body : List Step) : Except Rejection Unit := do
  body.forM fun
    | .bind name _ (some type) _ => checkType name type
    | _ => .ok ()
  if result?.isSome && !givesResult body then throw (.mismatch name)
  checkBody ((parameters.map fun p => (p.name, p.type.valueType?)) :: types)
    (result?.map (·.type)) body

/-- Whether an entry point that draws takes and gives only what other stages know of. It has no work
groups. -/
def isConnected (attributes : List Attribute) (parameters : List Parameter)
    (result? : Option Result) : Bool :=
  parameters.all (!·.attributes.isEmpty) && result?.all (!·.attributes.isEmpty) &&
    !attributes.any (·.name == "workgroup_size")

/-- Whether a result is the position of a vertex. -/
def givesPosition (result? : Option Result) : Bool :=
  result?.any fun r => r.attributes.any (isBuiltinValue "position") &&
    r.type.valueType? == some (.vector 4 "f32")

/-- The entry point that a function is, if it is one. -/
def entryPoint? (constants : Constants) (attributes : List Attribute) (name : String)
    (parameters : List Parameter) (result? : Option Result) :
    Except Rejection (Option EntryPoint) := do
  match stageAttributes attributes with
  | [] => return none
  | stage :: _ => do
    if stage.name == "compute" then
      unless result?.isNone && arePlaceParameters parameters do throw (.entryPoint name)
      let some size := attributes.find? (·.name == "workgroup_size")
        | throw (.workgroupSize name)
      return some ⟨name, ← workgroupSize constants name size.arguments, true⟩
    else
      unless isConnected attributes parameters result? do throw (.entryPoint name)
      if stage.name == "vertex" && !givesPosition result? then throw (.entryPoint name)
      return some ⟨name, #v[0, 0, 0], false⟩

/-- A function; the entry point that it is, if it is one. -/
def checkFunction (constants : Constants) (types : TypeScopes) (attributes : List Attribute)
    (name : String) (parameters : List Parameter) (result? : Option Result) (body : List Step) :
    Except Rejection (Option EntryPoint) := do
  if result?.isNone && attributes.any (·.name == "must_use") then throw (.attribute "must_use")
  parameters.forM fun p => checkTyped p.attributes p.name p.type
  result?.toList.forM fun r => checkTyped r.attributes name r.type
  checkTypes types name parameters result? body
  entryPoint? constants attributes name parameters result?

def Declaration.isEntryPoint : Declaration → Bool
  | .function attributes _ _ _ _ => !(stageAttributes attributes).isEmpty
  | _ => false

/-- What was found in the declarations checked so far. -/
structure Progress where
  constants : Constants := []
  types : TypeScopes := []
  module : Module := {}
  /-- Variables that each declaration reaches. -/
  reached : List (String × List Variable) := []

namespace Progress

/-- Variables that the mentions of a declaration reach. -/
def reach (p : Progress) (mentions : List Mention) : List Variable :=
  (mentions.flatMap fun m => (p.reached.lookup m.name).getD []).eraseDups

/-- Whether two different variables have one binding. -/
def collide (bound : List Variable) : Bool :=
  bound.any fun v => v.binding?.isSome &&
    bound.any fun w => v.name? != w.name? && v.binding? == w.binding?

/-- Checks one declaration after those it depends on. -/
def check (p : Progress) (e : Entry) : Except Rejection Progress := do
  let reached := p.reach e.mentions
  match e.declaration with
  | .const name type? value => do
    type?.toList.forM (checkType name)
    let literal? ← constantValue p.constants name type? value
    return { p with
      constants := (name, literal?) :: p.constants
      types := p.types.bind name (literal?.map Literal.valueType) }
  | .variable attributes space name type value? => do
    let v ← checkVariable p.constants attributes space name type value?
    checkGiven name type.valueType? (← optionalType p.types value?)
    return { p with
      module := { p.module with globals := p.module.globals ++ [v] }
      types := p.types.bind name type.valueType?
      reached := (name, [v]) :: p.reached }
  | .function attributes name parameters result? body => do
    let entry? ← checkFunction p.constants p.types attributes name parameters result? body
    if e.declaration.isEntryPoint && collide reached then throw (.bindingCollision name)
    return { p with
      module := { p.module with entryPoints := p.module.entryPoints ++ entry?.toList }
      reached := (name, reached) :: p.reached }

end Progress

/-- Entry points start a shader; no declaration can use one. -/
def checkMentions (t : Table) : Except Rejection Unit :=
  t.forM fun e => e.mentions.forM fun m => do
    t.checkMention m
    if ((t.find? m.name).map fun e => e.declaration.isEntryPoint) = some true then
      throw (.entryPoint m.name)

/-- The declarations of a shader text. -/
def parseTable (text : List Char) : Except Rejection Table := do
  let some tokens := tokens? text | throw .number
  Table.ofList (← parse tokens)

/-- Parses and checks a shader. Variables and entry points come in dependency order. -/
def analyze (text : List Char) : Except Rejection Module := do
  let table ← parseTable text
  checkMentions table
  let order ← table.dependencyOrder
  let progress ← order.foldlM Progress.check {}
  return progress.module

/-- Whether a shader text computes with values of 64 bits. -/
def isWide (text : List Char) : Bool :=
  match parseTable text with
  | .ok table => table.any Entry.wide
  | .error _ => false

end Offload.Shader
