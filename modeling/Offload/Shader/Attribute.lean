import Offload.Shader.Rejection
import Offload.Shader.Syntax

/-!
# Attributes

Which attributes stand before declarations, parameters and results, and with how many arguments. One
that says nothing about what it stands before is without effect.
-/

namespace Offload.Shader

/-- Attributes by name, each with the least and the largest number of its arguments. -/
abbrev AttributeTable : Type := List (String × Nat × Nat)

/-- Attributes of declarations. -/
def declarationAttributes : AttributeTable :=
  [("binding", 1, 1), ("compute", 0, 0), ("fragment", 0, 0), ("group", 1, 1), ("id", 1, 1),
   ("must_use", 0, 0), ("vertex", 0, 0), ("workgroup_size", 1, 3)]

/-- Attributes of parameters and results, which connect them with the stages around. -/
def connectionAttributes : AttributeTable :=
  [("builtin", 1, 1), ("interpolate", 1, 2), ("invariant", 0, 0), ("location", 1, 1)]

/-- Whether the table has the attribute with so many arguments. -/
def AttributeTable.allows (t : AttributeTable) (a : Attribute) : Bool :=
  (t.lookup a.name).any fun (least, most) =>
    least ≤ a.arguments.length && a.arguments.length ≤ most

/-- The attributes are of the table, each at most once. -/
def AttributeTable.check (t : AttributeTable) : List Attribute → Except Rejection Unit
  | [] => .ok ()
  | a :: rest =>
    if t.allows a && !rest.any (·.name == a.name) then t.check rest
    else .error (.attribute a.name)

def stages : List String := ["compute", "fragment", "vertex"]

/-- Attributes that make a function the entry point of a stage. -/
def stageAttributes (attributes : List Attribute) : List Attribute :=
  attributes.filter fun a => stages.contains a.name

/-- The attributes of a declaration, which can be for one stage only. -/
def checkDeclarationAttributes (attributes : List Attribute) : Except Rejection Unit := do
  declarationAttributes.check attributes
  match stageAttributes attributes with
  | _ :: second :: _ => throw (.attribute second.name)
  | _ => return ()

/-- Whether the attributes give a place in a group; half of it counts for nothing. -/
def isBound (attributes : List Attribute) : Bool :=
  attributes.any (·.name == "group") && attributes.any (·.name == "binding")

/-- Whether an attribute names the built-in value `value`. -/
def isBuiltinValue (value : String) (a : Attribute) : Bool :=
  match a.name, a.arguments with
  | "builtin", [.named name] => name == value
  | _, _ => false

end Offload.Shader
