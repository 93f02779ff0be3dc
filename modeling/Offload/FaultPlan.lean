import Offload.Backend
import Offload.Text.Encoding

/-!
# Fault plans

A backend whose operations fail on purpose. What a plan does not name is left to the backend
underneath, and each submission is traced.
-/

namespace Offload

/-- How an operation is made to fail. -/
inductive Trap (ε : Type) where
  | fault (cause : ε)
  | panic (payload : Option String)

/-- What becomes of a program's binary. -/
inductive BinaryPlan where
  | fail (code : StatusCode)
  | replace (bytes : List UInt8)
  | append (bytes : List UInt8)

/-- Failures to come. -/
structure FaultPlan (ε : Type) where
  binary? : Option BinaryPlan := none
  load? : Option StatusCode := none
  create? : Option StatusCode := none
  lookup? : Option StatusCode := none
  resolve? : Option (Trap ε) := none
  submit? : Option (Trap ε) := none
  wait? : Option (Trap ε) := none

namespace FaultPlan

variable {T : Carriers}

/-- Fails in place of `x` if that is planned, and gives back the references that `x` would own. -/
def trap {ε α : Type} (owned : List Handle) (trap? : Option (Trap ε)) (x : Action (Machine T) ε α) :
    Action (Machine T) ε α :=
  match trap? with
  | some (.fault cause) => fun m => (.fault cause, m.releaseBuffers owned)
  | some (.panic payload) => fun m => (.unwound (.raised payload), m.releaseBuffers owned)
  | none => x

def failing {α : Type} (code? : Option StatusCode) (x : Except StatusCode α) :
    Except StatusCode α :=
  match code? with
  | some code => .error code
  | none => x

def binary (plan? : Option BinaryPlan) (x : Except StatusCode (List UInt8)) :
    Except StatusCode (List UInt8) :=
  match plan? with
  | some (.fail code) => .error code
  | some (.replace bytes) => .ok bytes
  | some (.append bytes) => x.map (· ++ bytes)
  | none => x

theorem trap_keeps {ε α γ : Type} {f : Machine T → γ} (owned : List Handle)
    (trap? : Option (Trap ε)) {x : Action (Machine T) ε α}
    (hf : ∀ m, f (m.releaseBuffers owned) = f m) (hx : x.Keeps f) :
    (trap owned trap? x).Keeps f := by
  unfold trap
  split
  · exact hf
  · exact hf
  · exact hx

/-- The backend `b` under a plan. It has a name and an axis order of its own; a planned failure to
wait comes after the launch has ended. -/
def apply (plan : FaultPlan T.Fault) (nameOf : T.Executable → String) (b : Backend T) :
    Backend T :=
  { b with
    name := "mock"
    axisOrder := .reversed
    binary := fun program? => binary plan.binary? (b.binary program?)
    load := fun context bytes options =>
      match plan.load? with
      | some code => { value := .fault code }
      | none => b.load context bytes options
    createKernel := fun program? name => failing plan.create? (b.createKernel program? name)
    fastKernel := fun loaded name => failing plan.lookup? (b.fastKernel loaded name)
    resolve := fun kernel? context => trap [] plan.resolve? (b.resolve kernel? context)
    submit := fun queue executable shape arguments => do
      Action.modify (·.record
        (.submission (nameOf executable) (arguments.map (·.inspect)) shape))
      trap (boundBuffers arguments) plan.submit? (b.submit queue executable shape arguments)
    wait := fun event m =>
      let (r, m) := b.wait event m
      trap [] plan.wait? (Action.lift r) m
    resolve_keeps := fun kernel? context =>
      trap_keeps _ _ (fun _ => rfl) (b.resolve_keeps kernel? context)
    submit_keeps := fun queue executable shape arguments =>
      .bind (.modify fun _ => rfl)
        fun _ => trap_keeps _ _ (fun _ => rfl) (b.submit_keeps queue executable shape arguments)
    wait_keeps := fun event m =>
      (trap_keeps _ _ (fun _ => rfl) (.lift _) _).trans (b.wait_keeps event m) }

end FaultPlan

end Offload
