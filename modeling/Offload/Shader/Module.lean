import Offload.LaunchShape

/-!
# Shader modules

What a front end finds in a shader that it accepts: variables of the whole shader, and entry points
of its stages.
-/

namespace Offload.Shader

/-- Where a variable lives, as it is declared. -/
inductive Space where
  /-- Opaque resources, for which no place is declared. -/
  | handle
  | storage (writable : Bool)
  | uniform
  | workgroup
  /-- Memory of one work item. -/
  | item
  deriving DecidableEq, Repr

/-- A variable of the whole shader. -/
structure Variable where
  name? : Option String
  space : Space
  /-- Its group and its number there. -/
  binding? : Option (Nat × Nat)
  deriving DecidableEq, Repr

/-- How messages call the variable. -/
def Variable.label (v : Variable) : String :=
  v.name?.getD "<unnamed>"

/-- A function that a stage starts with. Only the compute stage has work groups. -/
structure EntryPoint where
  name : String
  workgroup : Axes
  isCompute : Bool := true
  deriving DecidableEq

structure Module where
  globals : List Variable := []
  entryPoints : List EntryPoint := []
  deriving DecidableEq

/-- Entry points of the compute stage. -/
def Module.kernels (m : Module) : List EntryPoint :=
  m.entryPoints.filter (·.isCompute)

end Offload.Shader
