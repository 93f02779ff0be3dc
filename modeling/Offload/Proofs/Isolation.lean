import Offload.Proofs.Containment
import Offload.Proofs.FastPath

/-!
# Kernels on queues of other contexts

A kernel object is refused on a queue of another context than that of its program. A kernel that was
taken from a module is launched on every queue, so programs with and without the fast path differ
there. On queues of their own context they do not.
-/

namespace Offload

/-! ## Entries -/

namespace Kernel

variable {T : Carriers} {b : Backend T} {p : Program T} {name : String} {m : Machine T}

theorem findEntry_loaded {loaded : T.Module} {e : T.Executable} (hm : p.module? = some loaded)
    (he : b.fastKernel loaded name = .ok e) : findEntry b p name m = .ok (.loaded e) := by
  simp only [findEntry, hm, he]
  rfl

theorem findEntry_object {k : T.Kernel} (hm : p.module? = none)
    (hk : b.createKernel (Program.object? p.handle m) name = .ok k) :
    findEntry b p name m = .ok (.object k) := by
  simp only [findEntry, hm, hk]
  rfl

/-- Where the entry of a kernel comes from. -/
theorem findEntry_cases {entry : KernelEntry T} (h : findEntry b p name m = .ok entry) :
    (∃ loaded e, p.module? = some loaded ∧ b.fastKernel loaded name = .ok e ∧
      entry = .loaded e) ∨
    ∃ k, p.module? = none ∧ b.createKernel (Program.object? p.handle m) name = .ok k ∧
      entry = .object k := by
  unfold findEntry at h
  cases hm : p.module? with
  | some loaded =>
      simp only [hm] at h
      cases he : b.fastKernel loaded name with
      | ok e => rw [he] at h; cases h; exact .inl ⟨loaded, e, rfl, he, rfl⟩
      | error code => rw [he] at h; cases h
  | none =>
      simp only [hm] at h
      cases hk : b.createKernel (Program.object? p.handle m) name with
      | ok k => rw [hk] at h; cases h; exact .inr ⟨k, rfl, rfl, rfl⟩
      | error code => rw [hk] at h; cases h

theorem make_inv {target : Target} {m' : Machine T} {k : Kernel T}
    (h : make b target p name m = (.ok k, m')) :
    k.target = target ∧ findEntry b p name m = .ok k.entry := by
  unfold make at h
  split at h
  · rename_i entry he
    cases h
    exact ⟨rfl, he⟩
  · cases h

end Kernel

/-! ## Calls with equal submissions -/

section Calls

variable {T : Carriers} {b : Backend T} {s : Scheduler T} {k k' : Kernel T}
  {range : LaunchRange} {arguments : List Argument} {m : Machine T}

theorem Scheduler.counted_state (outcome : Outcome Error Unit) (m : Machine T) :
    (s.counted k outcome m).state = m.state := by
  cases outcome <;> rfl

theorem Scheduler.counted_buffers (outcome : Outcome Error Unit) (m : Machine T) :
    (s.counted k outcome m).buffers = m.buffers := by
  cases outcome <;> rfl

theorem Scheduler.counted_of_name (h : k.name = k'.name) (outcome : Outcome Error Unit)
    (m : Machine T) : s.counted k outcome m = s.counted k' outcome m := by
  cases outcome with
  | ok u => rfl
  | fault e => simp only [counted, h]
  | unwound p => rfl

/-- A device does not tell kernels apart that it resolves to what it submits in the same way. -/
theorem Scheduler.schedule_congr {e e' : T.Executable} {m' : Machine T}
    (range : LaunchRange) (arguments : List Argument)
    (hk : k.target = .device) (hk' : k'.target = .device) (hn : k.name = k'.name)
    (hr : k.resolve b s.queue.context m = (.ok e, m'))
    (hr' : k'.resolve b s.queue.context m = (.ok e', m'))
    (hs : ∀ shape bound, b.submit s.queue e shape bound = b.submit s.queue e' shape bound) :
    s.schedule b k range arguments m = s.schedule b k' range arguments m := by
  have hw : ∀ shape bound, s.submitAndWait b e shape bound = s.submitAndWait b e' shape bound := by
    intro shape bound
    simp only [submitAndWait, hs]
  have hl : s.launch b k range arguments m = s.launch b k' range arguments m := by
    simp only [launch_eq, hr, hr', hw]
  rw [schedule_device b s range arguments m hk, schedule_device b s range arguments m hk', hl,
    counted_of_name hn]

end Calls

namespace Cpu

/-- A launch sees no more of the build options than the values of macros. -/
theorem submit_congr {e e' : Executable} (hc : e.code = e'.code)
    (hd : e.options.defines = e'.options.defines) (queue : Queue carriers) (shape : LaunchShape)
    (arguments : List BoundArgument) :
    submit queue e shape arguments = submit queue e' shape arguments := by
  have hv : e.options.defineValue? = e'.options.defineValue? := by
    funext name
    simp only [BuildOptions.defineValue?, hd]
  have he : execute Handle.index e shape arguments = execute Handle.index e' shape arguments := by
    funext m
    unfold execute
    cases Invocation.bind Handle.index arguments with
    | error fault => rfl
    | ok bound => simp only [runBound, hc, hv]
  funext m
  simp only [submit]
  rw [he]

/-! ## Kernels of a source text -/

/-- `k` is a device kernel of a program that was built from `source` in `context`. -/
def KernelOf (context : Context) (source : String) (options : BuildOptions)
    (k : Kernel carriers) : Prop :=
  ∃ device title m p m₁ m₂ m₃,
    Program.compile backend context device title source options m = (.ok p, m₁) ∧
    Program.object? p.handle m₂ = Program.object? p.handle m₁ ∧
    Kernel.make backend .device p k.name m₂ = (.ok k, m₃)

/-- What a kernel of a source text is made of: the code linked to its name, loaded or as an object of
the context. -/
structure LinkedTo (context : Context) (source : String) (options : BuildOptions)
    (code : Implementation) (k : Kernel carriers) : Prop where
  lookup_eq : (linkedKernels context options source).lookup k.name = some code
  target_eq : k.target = .device
  loaded : options.fastPath = true → k.entry = .loaded ⟨k.name, code, options⟩
  object : options.fastPath = false →
    ∃ handle, k.entry = .object ⟨handle, context, ⟨k.name, code, options⟩⟩

variable {context : Context} {source : String} {options : BuildOptions} {k : Kernel carriers}

theorem KernelOf.linked (h : KernelOf context source options k) :
    ∃ code, LinkedTo context source options code k := by
  obtain ⟨device, title, m, p, m₁, m₂, m₃, hc, ho, hk⟩ := h
  obtain ⟨rfl, hobj⟩ := compile_inv context device source options title m hc
  -- When the kernel is made, the handle still stands for the program.
  rw [hobj] at ho
  obtain ⟨ht, he⟩ := Kernel.make_inv hk
  cases hf : options.fastPath with
  | true =>
      rcases Kernel.findEntry_cases he with ⟨loaded, e, hm, hl, hentry⟩ | ⟨_, hm, _⟩
      · cases (moduleOf_fast hf).symm.trans hm
        obtain ⟨code, hcode, rfl⟩ := fastKernel_eq_ok.mp hl
        exact ⟨code, hcode, ht, fun _ => hentry, fun h => absurd (h.symm.trans hf) (by decide)⟩
      · cases (moduleOf_fast hf).symm.trans hm
  | false =>
      rcases Kernel.findEntry_cases he with ⟨_, _, hm, _⟩ | ⟨object, _, hl, hentry⟩
      · cases (moduleOf_native hf).symm.trans hm
      · rw [ho] at hl
        obtain ⟨code, hcode, rfl⟩ := createKernel_eq_ok.mp hl
        exact ⟨code, hcode, ht, fun h => absurd (h.symm.trans hf) (by decide),
          fun _ => ⟨_, hentry⟩⟩

namespace LinkedTo

variable {code : Implementation} {m : Machine carriers}

theorem resolve_fast (h : LinkedTo context source options code k) (hf : options.fastPath = true)
    (own : Context) : k.resolve backend own m = (.ok ⟨k.name, code, options⟩, m) := by
  simp only [Kernel.resolve, h.loaded hf]
  rfl

theorem resolve_native (h : LinkedTo context source options code k)
    (hf : options.fastPath = false) (own : Context) : k.resolve backend own m =
      if context.isSame own then (.ok ⟨k.name, code, options⟩, m)
      else (.fault .invalidKernel, m) := by
  obtain ⟨handle, ho⟩ := h.object hf
  simp only [Kernel.resolve, ho]
  rfl

end LinkedTo

/-! ## Launches elsewhere -/

/-- A call that is turned away as one of an invalid kernel, with nothing submitted and no buffer
changed. -/
structure Refused (s : Scheduler carriers) (k : Kernel carriers) (range : LaunchRange)
    (arguments : List Argument) (m : Machine carriers) : Prop where
  outcome : (s.schedule backend k range arguments m).1 =
    .fault (backend.deviceError .invalidKernel)
  accepted : acceptedBy (s.schedule backend k range arguments m).2 s.queue = acceptedBy m s.queue
  buffers : (s.schedule backend k range arguments m).2.buffers = m.buffers

variable {s : Scheduler carriers} {range : LaunchRange} {arguments : List Argument}
  {m : Machine carriers}

theorem refused_of_resolve (hk : k.target = .device)
    (hr : k.resolve backend s.queue.context m = (.fault .invalidKernel, m)) :
    Refused s k range arguments m := by
  have hl : s.launch backend k range arguments m =
      (.fault (backend.deviceError .invalidKernel), m) := by
    rw [Scheduler.launch_eq, hr]
  have hs := Scheduler.schedule_device backend s range arguments m hk
  rw [hl] at hs
  refine ⟨by rw [hs], ?_, ?_⟩
  · rw [hs, acceptedBy, Scheduler.counted_state]
    rfl
  · rw [hs, Scheduler.counted_buffers]

/-- A kernel that resolves is submitted if its arguments can be bound. -/
theorem accepted_of_resolve {e : Executable} {bound : List BoundArgument}
    (hk : k.target = .device) (hr : k.resolve backend s.queue.context m = (.ok e, m))
    (hb : bindArguments arguments = .ok bound) :
    acceptedBy (s.schedule backend k range arguments m).2 s.queue =
      acceptedBy m s.queue + 1 := by
  have hs := submit_state s.queue e (range.arranged s.order) bound
    (m.retainBuffers (heldBy arguments))
  have hl : (s.launch backend k range arguments m).2.state =
      (submit s.queue e (range.arranged s.order) bound
        (m.retainBuffers (heldBy arguments))).2.state := by
    rw [Scheduler.launch_eq, hr]
    simp only [hb, Action.ensuring, Scheduler.guarded_eq,
      Scheduler.submitAndWait_eq, Machine.releaseBuffers_state]
    rfl
  rw [Scheduler.schedule_device backend s range arguments m hk]
  simp only [acceptedBy, Scheduler.counted_state, hl, hs]
  simp

theorem unwound_of_resolve {e : Executable} {p : Panic} (hk : k.target = .device)
    (hr : k.resolve backend s.queue.context m = (.ok e, m))
    (hb : bindArguments arguments = .error p) :
    (s.schedule backend k range arguments m).1 = .unwound p := by
  rw [Scheduler.schedule_device backend s range arguments m hk, Scheduler.launch_eq, hr]
  simp only [hb]

theorem not_refused_of_resolve {e : Executable} (hk : k.target = .device)
    (hr : k.resolve backend s.queue.context m = (.ok e, m)) :
    ¬ Refused s k range arguments m := by
  rintro ⟨outcome, accepted, -⟩
  cases hb : bindArguments arguments with
  | ok bound =>
      rw [accepted_of_resolve hk hr hb] at accepted
      omega
  | error p =>
      rw [unwound_of_resolve hk hr hb] at outcome
      cases outcome

theorem Refused.of_schedule_eq {k' : Kernel carriers} (h : Refused s k range arguments m)
    (he : s.schedule backend k' range arguments m = s.schedule backend k range arguments m) :
    Refused s k' range arguments m := by
  obtain ⟨outcome, accepted, buffers⟩ := h
  exact ⟨by rw [he]; exact outcome, by rw [he]; exact accepted, by rw [he]; exact buffers⟩

theorem KernelOf.refused_iff (hk : KernelOf context source options k)
    (hs : context.isSame s.queue.context = false) :
    Refused s k range arguments m ↔ options.fastPath = false := by
  obtain ⟨code, h⟩ := hk.linked
  cases hf : options.fastPath with
  | true =>
      have hn : ¬ Refused s k range arguments m :=
        not_refused_of_resolve h.target_eq (h.resolve_fast hf _)
      exact ⟨fun hr => absurd hr hn, fun hr => by cases hr⟩
  | false =>
      refine ⟨fun _ => rfl, fun _ => refused_of_resolve h.target_eq ?_⟩
      rw [h.resolve_native hf, hs]
      rfl

/-- On a queue of its own context, the fast path of a program is nothing to its kernels. -/
theorem KernelOf.schedule_eq {fast native : Kernel carriers}
    (hfast : KernelOf context source (options.withFastPath true) fast)
    (hnative : KernelOf context source (options.withFastPath false) native)
    (hn : fast.name = native.name) (hs : context.isSame s.queue.context = true) :
    s.schedule backend fast range arguments m = s.schedule backend native range arguments m := by
  obtain ⟨code, h⟩ := hfast.linked
  obtain ⟨code', h'⟩ := hnative.linked
  have hcode : some code = some code' := by
    rw [← h.lookup_eq, ← h'.lookup_eq, hn]
    rfl
  cases hcode
  have hr := h'.resolve_native rfl s.queue.context (m := m)
  rw [if_pos hs] at hr
  refine Scheduler.schedule_congr range arguments h.target_eq h'.target_eq hn
    (h.resolve_fast rfl _) hr fun shape bound => ?_
  exact submit_congr rfl rfl s.queue shape bound

/-- A kernel is refused on queues of other contexts exactly if its program has no fast path. With the
fast path on or off, calls do the same exactly on queues of the program's own context. -/
theorem foreign_refused_iff (context : Context) (source : String) (options : BuildOptions)
    (s : Scheduler carriers) (range : LaunchRange) (arguments : List Argument)
    (m : Machine carriers) :
    (∀ k, KernelOf context source options k → context.isSame s.queue.context = false →
      (Refused s k range arguments m ↔ options.fastPath = false)) ∧
    ∀ fast native, KernelOf context source (options.withFastPath true) fast →
      KernelOf context source (options.withFastPath false) native → fast.name = native.name →
      (s.schedule backend fast range arguments m = s.schedule backend native range arguments m ↔
        context.isSame s.queue.context = true) := by
  refine ⟨fun k hk hs => hk.refused_iff hs, fun fast native hfast hnative hn => ?_⟩
  refine ⟨fun he => ?_, hfast.schedule_eq hnative hn⟩
  cases hs : context.isSame s.queue.context with
  | true => rfl
  | false =>
      have hr : Refused s native range arguments m := (hnative.refused_iff hs).mpr rfl
      have hf : true = false := (hfast.refused_iff hs).mp (hr.of_schedule_eq he)
      cases hf

/-- Every linked name has its kernel. -/
theorem exists_kernelOf (options : BuildOptions) {name : String} {code : Implementation}
    (he : (Source.link context.registry.find? options.flags source.toList).log.errors = [])
    (hl : (linkedKernels context options source).lookup name = some code) :
    ∃ k, KernelOf context source options k ∧ k.name = name := by
  let start : Machine carriers := { state := ({} : State) }
  obtain ⟨m, hc, hp⟩ := compile_built context context.device source options "program" start
    (build_linked options rfl he)
  have ho := Program.object?_of_programs hp
  let p : Program carriers := ⟨"program", Program.nextHandle start,
    moduleOf options (linkedKernels context options source)⟩
  have hentry : ∃ entry, Kernel.findEntry backend p name m = .ok entry := by
    cases hf : options.fastPath with
    | true =>
        exact ⟨_, Kernel.findEntry_loaded (moduleOf_fast hf)
          (fastKernel_eq_ok.mpr ⟨code, hl, rfl⟩)⟩
    | false =>
        have hk : backend.createKernel (Program.object? p.handle m) name =
            .ok ⟨start.programs.fresh, context, ⟨name, code, options⟩⟩ := by
          rw [ho]
          exact createKernel_eq_ok.mpr ⟨code, hl, rfl⟩
        exact ⟨_, Kernel.findEntry_object (moduleOf_native hf) hk⟩
  obtain ⟨entry, he⟩ := hentry
  refine ⟨⟨name, .device, (p.clone m).1, entry⟩, ?_, rfl⟩
  refine ⟨context.device, "program", start, p, m, m, (p.clone m).2, hc, rfl, ?_⟩
  simp only [Kernel.make, he]

/-! ## A launch elsewhere -/

/-- A context with one kernel. -/
def home : Context := ⟨1, {}, .ofList [("idle", .idle)], usualCapacity⟩

def homeSource : String := "kernel void idle()"

/-- Of two kernels that are the same at home, only the one without the fast path is refused
elsewhere. -/
theorem foreign_refused_iff_home :
    ∃ fast native : Kernel carriers, KernelOf home homeSource (.withFastPath {} true) fast ∧
      KernelOf home homeSource (.withFastPath {} false) native ∧ fast.name = native.name ∧
      home.isSame Scheduler.lone.queue.context = false ∧
      ¬ Refused .lone fast Scheduler.fourItems [] { state := {} } ∧
      Refused .lone native Scheduler.fourItems [] { state := {} } ∧
      ({ Scheduler.lone with queue := ⟨1, home⟩ } : Scheduler carriers).schedule backend fast
          Scheduler.fourItems [] { state := {} } =
        ({ Scheduler.lone with queue := ⟨1, home⟩ } : Scheduler carriers).schedule backend native
          Scheduler.fourItems [] { state := {} } := by
  have he : (Source.link home.registry.find? [] homeSource.toList).log.errors = [] := by
    decide +kernel
  have hl : ((linkedKernels home {} homeSource).lookup "idle").isSome = true := by
    decide +kernel
  obtain ⟨code, hl⟩ := Option.isSome_iff_exists.mp hl
  obtain ⟨fast, hfast, hn⟩ := exists_kernelOf (.withFastPath {} true) he hl
  obtain ⟨native, hnative, hn'⟩ := exists_kernelOf (.withFastPath {} false) he hl
  have hs : home.isSame Scheduler.lone.queue.context = false := by decide
  have hname : fast.name = native.name := hn.trans hn'.symm
  have hf := (foreign_refused_iff home homeSource (.withFastPath {} true) .lone Scheduler.fourItems []
    { state := {} }).1 fast hfast hs
  have hr := (foreign_refused_iff home homeSource (.withFastPath {} false) .lone Scheduler.fourItems []
    { state := {} }).1 native hnative hs
  refine ⟨fast, native, hfast, hnative, hname, hs, fun h => ?_, hr.mpr rfl, ?_⟩
  · cases hf.mp h
  · exact ((foreign_refused_iff home homeSource {} _ Scheduler.fourItems [] _).2 fast native hfast hnative
      hname).mpr (by decide)

/-- On a queue of another context, a kernel of a program with the fast path on is launched. -/
theorem foreign_fast_launch :
    home.isSame Scheduler.lone.queue.context = false ∧
      (match Scheduler.freshKernel backend home (.withFastPath {} true) homeSource "idle"
          { state := {}, tallies := #[{}] } with
        | (.ok k, m) =>
          let (outcome, m') := Scheduler.lone.schedule backend k Scheduler.fourItems [] m
          some (k.target, outcome, acceptedBy m' Scheduler.lone.queue)
        | _ => none) = some (.device, .ok (), 1) := by
  decide +kernel

end Cpu

end Offload
