import Offload.Shader.Module
import Offload.Text.Quoted

/-!
# Shader interfaces

What a program offers to launches: compute entry points, and bindings numbered like the arguments.
All bindings are in group 0 and are numbered from 0 without gaps.
-/

namespace Offload.Gpu

/-- How a binding is declared. -/
inductive BindingKind where
  | storage (readOnly : Bool)
  | uniform
  deriving DecidableEq, Repr

namespace BindingKind

/-- Whether the shader may write the binding. -/
def isWritable : BindingKind → Bool
  | .storage readOnly => !readOnly
  | .uniform => false

def isStorage : BindingKind → Bool
  | .storage _ => true
  | .uniform => false

def inspect : BindingKind → String
  | .storage readOnly => Text.record "Storage" [("read_only", toString readOnly)] false
  | .uniform => "Uniform"

/-- The kind of a variable in this space, if it is a buffer. -/
def ofSpace? : Shader.Space → Option BindingKind
  | .storage writable => some (.storage !writable)
  | .uniform => some .uniform
  | _ => none

end BindingKind

structure Interface where
  bindings : List BindingKind
  entryPoints : List Shader.EntryPoint

/-- Why a shader that the front end accepts offers no interface. -/
inductive InterfaceError where
  | wrongGroup (label : String) (group : Nat)
  | notBuffer (label : String)
  | missingBinding (count number : Nat)
  | noEntryPoint
  deriving DecidableEq, Repr

def InterfaceError.message : InterfaceError → String
  | .wrongGroup label group => s!"binding '{label}' is in group {group}; only group 0 is supported"
  | .notBuffer label => s!"binding '{label}' is not a storage or uniform buffer"
  | .missingBinding count number =>
    s!"bindings must be numbered 0..{count} without gaps; @binding({number}) is missing"
  | .noEntryPoint => "no compute entry points declared"

namespace Interface

/-- The number and kind of a bound variable; a variable that is not bound has none. -/
def boundKind? (v : Shader.Variable) : Except InterfaceError (Option (Nat × BindingKind)) :=
  match v.binding? with
  | none => .ok none
  | some (group, number) =>
    if group ≠ 0 then .error (.wrongGroup v.label group)
    else
      match BindingKind.ofSpace? v.space with
      | some kind => .ok (some (number, kind))
      | none => .error (.notBuffer v.label)

/-- The first place where numbers that should go on from `next` do not. -/
def gap? (next : Nat) : List Nat → Option Nat
  | [] => none
  | number :: rest => if number = next then gap? (next + 1) rest else some next

/-- Kinds in the order of their numbers, which have to be the places they come to. -/
def number (bound : List (Nat × BindingKind)) : Except InterfaceError (List BindingKind) :=
  let sorted := bound.mergeSort fun a b => a.1 ≤ b.1
  match gap? 0 (sorted.map (·.1)) with
  | some place => .error (.missingBinding bound.length place)
  | none => .ok (sorted.map (·.2))

/-- The interface of a shader. -/
def ofModule (m : Shader.Module) : Except InterfaceError Interface := do
  let bound ← m.globals.mapM boundKind?
  let bindings ← number (bound.filterMap id)
  if m.kernels.isEmpty then throw .noEntryPoint
  return ⟨bindings, m.kernels⟩

end Interface

end Offload.Gpu
