import Offload.Proofs.AxisOrder
import Offload.Scheduler

/-!
# What a launch can do

Every way in which a launch can go, once for all devices. What is known about a single launch is
read off its case; `launch_launched` says that there are no other cases.
-/

namespace Offload

/-! ## Arguments -/

/-- Work-group local memory. -/
def Argument.isLocal : Argument → Bool
  | .localMemory .. => true
  | _ => false

theorem bindArguments_of_no_local {arguments : List Argument}
    (h : ∀ a ∈ arguments, a.isLocal = false) :
    bindArguments arguments = .ok (arguments.filterMap (·.bound?)) := by
  unfold bindArguments
  induction arguments with
  | nil => rfl
  | cons a rest ih =>
      have ha := h a List.mem_cons_self
      rw [List.mapM_cons, ih fun x hx => h x (List.mem_cons_of_mem _ hx)]
      cases a with
      | buffer handle type access => rfl
      | localMemory type length => simp [Argument.isLocal] at ha
      | constant value => rfl

/-! ## Submissions -/

variable {T : Carriers}

/-- A kernel from a module resolves without the device. -/
theorem Kernel.resolve_keeps {b : Backend T} {γ : Type} {f : Machine T → γ}
    (hb : ∀ kernel? context, (b.resolve kernel? context).Keeps f) (k : Kernel T)
    (context : T.Context) : (k.resolve b context).Keeps f := by
  unfold Kernel.resolve
  cases k.entry with
  | loaded executable => exact .pure executable
  | object kernel => exact hb (some kernel) context

/-- What a launch reports for the end of its submission. -/
def Backend.settled (b : Backend T) : Outcome T.Fault Unit → Outcome Error Unit
  | .ok () => .ok ()
  | .fault f => .fault (b.deviceError f)
  | .unwound p => .fault (.deviceExecution b.name p.report)

theorem Backend.settled_eq_ok {b : Backend T} {r : Outcome T.Fault Unit}
    (h : b.settled r = .ok ()) : r = .ok () := by
  cases r with
  | ok u => rfl
  | fault f => cases h
  | unwound p => cases h

theorem Backend.settled_eq_fault {b : Backend T} {r : Outcome T.Fault Unit} {e : Error}
    (h : b.settled r = .fault e) : ∃ reason, e = .deviceExecution b.name reason := by
  cases r with
  | ok u => cases h
  | fault f => cases h; exact ⟨_, rfl⟩
  | unwound p => cases h; exact ⟨_, rfl⟩

theorem Backend.settled_ne_unwound {b : Backend T} {r : Outcome T.Fault Unit} {p : Panic} :
    b.settled r ≠ .unwound p := by
  intro h
  cases r <;> cases h

/-! ## References of the arguments -/

/-- The references to buffers that a launch takes while it runs. -/
def heldBy (arguments : List Argument) : List Handle :=
  buffersOf arguments ++ buffersOf arguments

theorem Argument.bound?_handle {a : Argument} {x : BoundArgument} (h : a.bound? = some x) :
    x.handle? = a.handle? := by
  cases a <;> cases h <;> rfl

theorem buffersOf_cons (a : Argument) (rest : List Argument) :
    buffersOf (a :: rest) = a.handle?.toList ++ buffersOf rest := by
  cases h : a.handle? <;> simp [buffersOf, h]

theorem boundBuffers_append (bound : List BoundArgument) (x : BoundArgument) :
    boundBuffers (bound ++ [x]) = boundBuffers bound ++ x.handle?.toList := by
  cases h : x.handle? <;> simp [boundBuffers, h]

theorem bindArguments_cons (a : Argument) (rest : List Argument) :
    bindArguments (a :: rest) =
      match a.bound? with
      | some x => (bindArguments rest).map (x :: ·)
      | none => .error .localArgument := by
  rw [bindArguments, List.mapM_cons]
  cases a.bound? with
  | none => rfl
  | some x =>
      show (bindArguments rest >>= fun bound => Except.ok (x :: bound)) = _
      cases bindArguments rest <;> rfl

/-- The device gets the buffers that the call stores. -/
theorem boundBuffers_of_bind {arguments : List Argument} {bound : List BoundArgument}
    (h : bindArguments arguments = .ok bound) : boundBuffers bound = buffersOf arguments := by
  induction arguments generalizing bound with
  | nil => cases h; rfl
  | cons a rest ih =>
      rw [bindArguments_cons] at h
      cases ha : a.bound? with
      | none => rw [ha] at h; cases h
      | some x =>
          cases hr : bindArguments rest with
          | error p => rw [ha, hr] at h; cases h
          | ok others =>
              rw [ha, hr] at h
              cases h
              have hx : boundBuffers ([] ++ [x] ++ others) = x.handle?.toList ++ boundBuffers others := by
                cases hh : x.handle? <;> simp [boundBuffers, hh]
              rw [buffersOf_cons, ← ih hr, ← Argument.bound?_handle ha]
              exact hx

namespace Scheduler

variable (b : Backend T) (s : Scheduler T) (k : Kernel T) (range : LaunchRange)
  (arguments : List Argument) (m : Machine T)

theorem guarded_eq (x : Action (Machine T) T.Fault Unit) :
    guarded b x m = (b.settled (x m).1, (x m).2) := by
  unfold guarded
  cases x m with
  | mk r m₁ => cases r <;> rfl

/-- Binding takes two references for each buffer, or none at all. Each argument is bound as the next
one. -/
theorem bindAll_eq (group : CommandGroup) :
    bindAll group group.bound.length arguments m =
      match bindArguments arguments with
      | .ok bound =>
        (.ok ⟨group.stored ++ buffersOf arguments, group.bound ++ bound⟩,
          m.retainBuffers (heldBy arguments))
      | .error p => (.unwound p, m.releaseBuffers group.held) := by
  -- Both the group and the machine go on; what is owned in between is what the group holds.
  induction arguments generalizing group m with
  | nil =>
      show (Outcome.ok group, m) = (Outcome.ok ⟨group.stored ++ [], group.bound ++ []⟩, m)
      rw [List.append_nil, List.append_nil]
  | cons a rest ih =>
      rw [bindAll, bindArguments_cons]
      cases ha : a.bound? with
      | none => rfl
      | some x =>
          have ih m := ih m ⟨group.stored ++ x.handle?.toList, group.bound ++ [x]⟩
          simp only [List.length_append, List.length_singleton, Argument.bound?_handle ha] at ih
          simp only [CommandGroup.setArgument, if_true, ih, Machine.retainBuffers_retainBuffers,
            Argument.bound?_handle ha]
          cases bindArguments rest with
          | ok others =>
              have hp : (a.handle?.toList ++ a.handle?.toList ++ heldBy rest).Perm
                  (heldBy (a :: rest)) := by
                refine List.perm_iff_count.mpr fun h => ?_
                simp only [heldBy, buffersOf_cons, List.count_append]
                omega
              rw [m.retainBuffers_perm hp]
              simp only [Except.map, buffersOf_cons, List.append_assoc, List.singleton_append]
          | error p =>
              have hp : (CommandGroup.held ⟨group.stored ++ a.handle?.toList, group.bound ++ [x]⟩).Perm
                  (a.handle?.toList ++ a.handle?.toList ++ group.held) := by
                refine List.perm_iff_count.mpr fun h => ?_
                simp only [CommandGroup.held, boundBuffers_append, Argument.bound?_handle ha,
                  List.count_append]
                omega
              rw [Machine.releaseBuffers_perm _ hp, ← Machine.releaseBuffers_releaseBuffers,
                Machine.releaseBuffers_retainBuffers]
              rfl

theorem launch_eq :
    s.launch b k range arguments m =
      match k.resolve b s.queue.context m with
      | (.ok executable, m₁) =>
        match bindArguments arguments with
        | .ok bound =>
          (guarded b (s.submitAndWait b executable (range.arranged s.order) bound)).ensuring
            (·.releaseBuffers (buffersOf arguments)) (m₁.retainBuffers (heldBy arguments))
        | .error p => (.unwound p, m₁)
      | (.fault f, m₁) => (.fault (b.deviceError f), m₁)
      | (.unwound p, m₁) => (.unwound p, m₁) := by
  unfold launch
  rw [range.shape_eq]
  show Action.bind (Action.mapFault b.deviceError (k.resolve b s.queue.context)) _ m = _
  unfold Action.bind Action.mapFault
  cases k.resolve b s.queue.context m with
  | mk r m₁ =>
      cases r with
      | ok executable =>
          show Action.bind (bindAll {} 0 arguments) _ m₁ = _
          unfold Action.bind
          rw [show bindAll {} 0 arguments m₁ = _ from bindAll_eq arguments m₁ {}]
          cases bindArguments arguments <;> rfl
      | fault f => rfl
      | unwound p => rfl

/-- How a launch can end, and the machine after that. -/
inductive Launched : Outcome Error Unit → Machine T → Prop where
  | resolveFault {f m₁} (resolved : k.resolve b s.queue.context m = (.fault f, m₁)) :
      Launched (.fault (b.deviceError f)) m₁
  | resolveUnwound {p m₁} (resolved : k.resolve b s.queue.context m = (.unwound p, m₁)) :
      Launched (.unwound p) m₁
  | bindUnwound {executable m₁ p}
      (resolved : k.resolve b s.queue.context m = (.ok executable, m₁))
      (unbound : bindArguments arguments = .error p) : Launched (.unwound p) m₁
  | submitFault {executable m₁ bound f m₂}
      (resolved : k.resolve b s.queue.context m = (.ok executable, m₁))
      (bound_eq : bindArguments arguments = .ok bound)
      (submitted : b.submit s.queue executable (range.arranged s.order) bound
        (m₁.retainBuffers (heldBy arguments)) = (.fault f, m₂)) :
      Launched (.fault (b.deviceError f)) (m₂.releaseBuffers (buffersOf arguments))
  | submitUnwound {executable m₁ bound p m₂}
      (resolved : k.resolve b s.queue.context m = (.ok executable, m₁))
      (bound_eq : bindArguments arguments = .ok bound)
      (submitted : b.submit s.queue executable (range.arranged s.order) bound
        (m₁.retainBuffers (heldBy arguments)) = (.unwound p, m₂)) :
      Launched (.fault (.deviceExecution b.name p.report))
        (m₂.releaseBuffers (buffersOf arguments))
  | waited {executable m₁ bound event m₂ r m₃ outcome}
      (resolved : k.resolve b s.queue.context m = (.ok executable, m₁))
      (bound_eq : bindArguments arguments = .ok bound)
      (submitted : b.submit s.queue executable (range.arranged s.order) bound
        (m₁.retainBuffers (heldBy arguments)) = (.ok event, m₂))
      (ended : b.wait event (m₂.updateTally s.tally Tally.submit) = (r, m₃))
      (settled : b.settled r = outcome) :
      Launched outcome (m₃.releaseBuffers (buffersOf arguments))

theorem submitAndWait_eq (executable : T.Executable) (shape : LaunchShape)
    (bound : List BoundArgument) :
    s.submitAndWait b executable shape bound m =
      match b.submit s.queue executable shape bound m with
      | (.ok event, m₁) => b.wait event (m₁.updateTally s.tally Tally.submit)
      | (.fault f, m₁) => (.fault f, m₁)
      | (.unwound p, m₁) => (.unwound p, m₁) := by
  show Action.bind (b.submit s.queue executable shape bound) _ m = _
  unfold Action.bind
  cases b.submit s.queue executable shape bound m with
  | mk r m₁ => cases r <;> rfl

theorem launch_launched :
    Launched b s k range arguments m (s.launch b k range arguments m).1
      (s.launch b k range arguments m).2 := by
  rw [launch_eq]
  cases hr : k.resolve b s.queue.context m with
  | mk r m₁ =>
      cases r with
      | fault f => exact .resolveFault hr
      | unwound p => exact .resolveUnwound hr
      | ok executable =>
          cases hb : bindArguments arguments with
          | error p => exact .bindUnwound hr hb
          | ok bound =>
              simp only [Action.ensuring, guarded_eq, submitAndWait_eq]
              cases hs : b.submit s.queue executable (range.arranged s.order) bound
                  (m₁.retainBuffers (heldBy arguments)) with
              | mk r m₂ =>
                  cases r with
                  | fault f => exact .submitFault hr hb hs
                  | unwound p => exact .submitUnwound hr hb hs
                  | ok event => exact .waited hr hb hs rfl rfl

theorem launched_of {b s k range arguments m} {r : Outcome Error Unit}
    (h : (s.launch b k range arguments m).1 = r) :
    ∃ after, Launched (T := T) b s k range arguments m r after :=
  ⟨_, h ▸ launch_launched b s k range arguments m⟩

/-! ## Calls -/

/-- The machine once the end of a launch is counted. -/
def counted : Outcome Error Unit → Machine T → Machine T
  | .ok (), m => m.updateTally s.tally Tally.complete
  | .fault e, m =>
    (m.updateTally s.tally Tally.fail).note .debug "kernel launch failed"
      [("kernel", k.name), ("error", e.message)]
  | .unwound _, m => m

theorem schedule_device {k : Kernel T} (hk : k.target = .device) :
    s.schedule b k range arguments m =
      ((s.launch b k range arguments m).1,
        s.counted k (s.launch b k range arguments m).1 (s.launch b k range arguments m).2) := by
  simp only [schedule, hk]
  cases s.launch b k range arguments m with
  | mk r m₁ => cases r <;> rfl

theorem schedule_host {k : Kernel T} (hk : k.target = .host) :
    s.schedule b k range arguments m =
      (.fault (.methodNotImplemented "host kernel scheduling"),
        (m.updateTally s.tally Tally.reject).note .debug
          "host kernels are not scheduled on devices" [("kernel", k.name)]) := by
  simp only [schedule, hk]

end Scheduler

end Offload
