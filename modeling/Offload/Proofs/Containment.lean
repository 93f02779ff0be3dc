import Offload.Cpu.Family
import Offload.Gpu.Backend
import Offload.Gpu.Limits
import Offload.Proofs.Launch

/-!
# Containment of failures

A call of a scheduler that launches a device kernel without local memory returns a status, however
its submission and the wait for it end. The one way out is the resolving of the kernel, which comes
before the failure boundary: if that unwinds, so does the call.
-/

namespace Offload.Scheduler

variable {T : Carriers} (b : Backend T) (s : Scheduler T) (k : Kernel T) (range : LaunchRange)
  (arguments : List Argument) (m : Machine T)

/-- The kernel resolves, the device accepts the launch, and the wait for it ends well. -/
def Completes : Prop :=
  ∃ executable m₁ bound event m₂,
    k.resolve b s.queue.context m = (.ok executable, m₁) ∧
    bindArguments arguments = .ok bound ∧
    b.submit s.queue executable (range.arranged s.order) bound
      (m₁.retainBuffers (heldBy arguments)) = (.ok event, m₂) ∧
    (b.wait event (m₂.updateTally s.tally Tally.submit)).1 = .ok ()

variable {b s k range arguments m}

theorem launch_ok_iff :
    (s.launch b k range arguments m).1 = .ok () ↔ Completes b s k range arguments m := by
  constructor
  · intro h
    obtain ⟨after, hl⟩ := launched_of h
    cases hl with
    | @waited executable m₁ bound event m₂ r m₃ _ resolved bound_eq submitted ended settled =>
        refine ⟨executable, m₁, bound, event, m₂, resolved, bound_eq, submitted, ?_⟩
        rw [ended]
        exact Backend.settled_eq_ok settled
  · rintro ⟨executable, m₁, bound, event, m₂, resolved, bound_eq, submitted, ended⟩
    simp only [launch_eq, resolved, bound_eq, Action.ensuring, guarded_eq,
      submitAndWait_eq, submitted, ended]
    rfl

/-- A fault of a launch names the device family. -/
theorem launch_fault {e : Error} (h : (s.launch b k range arguments m).1 = .fault e) :
    ∃ reason, e = .deviceExecution b.name reason := by
  obtain ⟨after, hl⟩ := launched_of h
  cases hl with
  | resolveFault _ => exact ⟨_, rfl⟩
  | submitFault _ _ _ => exact ⟨_, rfl⟩
  | submitUnwound _ _ _ => exact ⟨_, rfl⟩
  | waited _ _ _ _ settled => exact Backend.settled_eq_fault settled

/-- Nothing unwinds out of the failure boundary; what may unwind before it is the resolving of the
kernel and the binding of local memory. -/
theorem launch_unwound_iff {p : Panic} :
    (s.launch b k range arguments m).1 = .unwound p ↔
      (k.resolve b s.queue.context m).1 = .unwound p ∨
        (∃ executable, (k.resolve b s.queue.context m).1 = .ok executable) ∧
          bindArguments arguments = .error p := by
  constructor
  · intro h
    obtain ⟨after, hl⟩ := launched_of h
    cases hl with
    | resolveUnwound resolved => exact .inl (by rw [resolved])
    | bindUnwound resolved unbound => exact .inr ⟨⟨_, by rw [resolved]⟩, unbound⟩
    | waited _ _ _ _ settled => exact absurd settled Backend.settled_ne_unwound
  · intro h
    rw [launch_eq]
    cases hr : k.resolve b s.queue.context m with
    | mk r m₁ =>
        rw [hr] at h
        rcases h with h | ⟨⟨executable, h⟩, unbound⟩
        · cases h; rfl
        · cases h; simp only [unbound]

/-- A call that launches a device kernel without local memory ends well exactly if the launch
completes, and otherwise with an error that names the device family, unless the resolving of the
kernel unwinds. -/
theorem schedule_contained (hk : k.target = .device) (hl : ∀ a ∈ arguments, a.isLocal = false) :
    let outcome := (s.schedule b k range arguments m).1
    (outcome = .ok () ↔ Completes b s k range arguments m) ∧
      (∀ e, outcome = .fault e → ∃ reason, e = .deviceExecution b.name reason) ∧
      ∀ p, outcome = .unwound p ↔ (k.resolve b s.queue.context m).1 = .unwound p := by
  rw [schedule_device b s range arguments m hk]
  refine ⟨launch_ok_iff, fun e he => launch_fault he, fun p => ?_⟩
  rw [launch_unwound_iff, bindArguments_of_no_local hl]
  constructor
  · rintro (h | ⟨_, unbound⟩)
    · exact h
    · cases unbound
  · exact .inl

/-! ## Both sides of the boundary -/

/-- A kernel that was taken from a module and does nothing. -/
def idleKernel : Kernel Cpu.carriers :=
  ⟨"idle", .device, ⟨"program", .null, none⟩, .loaded ⟨"idle", Cpu.Implementation.idle, {}⟩⟩

/-- The CPU device, except that every wait for a launch panics. -/
def startling : Backend Cpu.carriers :=
  FaultPlan.apply { wait? := some (.panic (some "boom")) } Cpu.Executable.name Cpu.backend

def lone : Scheduler Cpu.carriers := ⟨⟨0, ⟨0, {}, {}, Cpu.usualCapacity⟩⟩, .reversed, 0⟩

def fourItems : LaunchRange := .flat ⟨[4], by decide, by decide⟩

/-- A panic while the launch is waited for stays inside. -/
theorem schedule_contained_startling :
    idleKernel.target = .device ∧ (∀ a ∈ [Argument.constant ⟨.i32, 5⟩], a.isLocal = false) ∧
      (startling.wait (.ok ()) { state := {} }).1 = .unwound (.raised (some "boom")) ∧
      ∀ p, (lone.schedule startling idleKernel fourItems
        [.constant ⟨.i32, 5⟩] { state := {}, tallies := #[{}] }).1 ≠ .unwound p := by
  refine ⟨rfl, by decide, rfl, ?_⟩
  intro p h
  have hr := ((schedule_contained rfl (by decide)).2.2 p).mp h
  cases hr

/-- A kernel of a program that is built from `source` for it. -/
def freshKernel (b : Backend T) (context : T.Context) (options : BuildOptions)
    (source name : String) : Action (Machine T) Error (Kernel T) := do
  let p ← Program.compile b context (b.deviceOf context) "program" source options
  Kernel.make b .device p name

/-- A fresh kernel, and a scheduler on a new queue. -/
def prepare (b : Backend T) (context : T.Context) (source name : String) :
    Action (Machine T) Error (Scheduler T × Kernel T) := do
  let k ← freshKernel b context {} source name
  fun m =>
    let (queue, m) := m.openQueue context
    let (s, m) := make queue b.axisOrder m
    (.ok (s, k), m)

/-- The usual system, with a shader whose work group is larger than its limits allow. -/
def oversized : Gpu.Platform :=
  .knowing [("@compute @workgroup_size(512) fn main() {}",
    { entryPoints := [⟨"main", .ofList [512], true⟩] })]

/-- The pipeline of an entry point is made when its kernel is first resolved. If the device refuses
the work group, the call unwinds. -/
theorem oversized_group_unwinds :
    (match prepare oversized.backend ⟨0, ⟨0, none⟩⟩
        "@compute @workgroup_size(512) fn main() {}" "main" { state := () } with
      | (.ok (s, k), m) =>
        some (k.target,
          (s.schedule oversized.backend k (.flat ⟨[512], by decide, by decide⟩) [] m).1)
      | _ => none) = some (.device, .unwound .validation) := by
  decide +kernel

end Offload.Scheduler
