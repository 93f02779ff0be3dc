import Offload.Cpu.Backend
import Offload.Proofs.Compilation
import Offload.Proofs.Manifest

/-!
# Programs with and without the fast path

On the CPU device a program builds with the fast path on exactly if it builds with it off. The
module of a program and its kernel objects give the same kernels.
-/

namespace Offload

/-! ## Compiling -/

namespace Program

variable {T : Carriers} {b : Backend T} {context : T.Context} {device : T.Device}
  {name source : String} {options : BuildOptions} {m : Machine T}

theorem compile_fault {failure : BuildFailure}
    (h : (b.build context device source options).value = .fault failure) :
    (compile b context device name source options m).1 = .fault (.compile name failure.code) :=
  compile_eq_fault_iff.mpr ⟨failure.code, rfl, .build h⟩

theorem compile_unwound {p : Panic}
    (h : (b.build context device source options).value = .unwound p) :
    (compile b context device name source options m).1 = .unwound p :=
  compile_eq_unwound_iff.mpr (.build h)

theorem compile_native {object : T.Program} (hf : options.fastPath = false)
    (h : (b.build context device source options).value = .ok object) :
    ∃ m', compile b context device name source options m = (.ok ⟨name, nextHandle m, none⟩, m') ∧
      m'.programs = (m.programs.insert object).2 :=
  compile_of_succeeds name m (.native h hf)

/-- With the fast path on, a program that was built ends as the load of its binary does. -/
theorem compile_fast_fst {object : T.Program} {bytes : List UInt8} (hf : options.fastPath = true)
    (h : (b.build context device source options).value = .ok object)
    (hn : bytes ≠ []) (hb : b.binary (some object) = .ok bytes) :
    (compile b context device name source options m).1 =
      ((b.load context bytes options).value.mapFault (.compile name) >>= fun loaded =>
        .ok ⟨name, nextHandle m, some loaded⟩) := by
  cases hl : (b.load context bytes options).value with
  | ok loaded =>
      obtain ⟨m', hc, -⟩ := compile_of_succeeds name m (.fast h hf hb hn hl)
      rw [hc]
      rfl
  | fault code => exact compile_eq_fault_iff.mpr ⟨code, rfl, .load h hf hb hn hl⟩
  | unwound p => exact compile_eq_unwound_iff.mpr (.load h hf hb hn hl)

theorem compile_fast {object : T.Program} {bytes : List UInt8} {loaded : T.Module}
    (hf : options.fastPath = true)
    (h : (b.build context device source options).value = .ok object)
    (hn : bytes ≠ []) (hb : b.binary (some object) = .ok bytes)
    (hl : (b.load context bytes options).value = .ok loaded) :
    ∃ m', compile b context device name source options m =
        (.ok ⟨name, nextHandle m, some loaded⟩, m') ∧
      m'.programs = (m.programs.insert object).2 :=
  compile_of_succeeds name m (.fast h hf hb hn hl)

end Program

/-! ## The CPU device -/

namespace Cpu

section Build

variable {context : Context} {device : Device} {source : String} (options : BuildOptions)

theorem build_elsewhere (hd : device ≠ context.device) :
    (build context device source options).value = .fault { code := .invalidDevice } := by
  simp only [build, if_pos hd]

theorem build_linked (hd : device = context.device)
    (he : (Source.link context.registry.find? options.flags source.toList).log.errors = []) :
    (build context device source options).value = .ok ⟨context, options,
      (Source.link context.registry.find? options.flags source.toList).kernels⟩ := by
  simp [build, hd, he]

theorem build_broken (hd : device = context.device)
    (he : (Source.link context.registry.find? options.flags source.toList).log.errors ≠ []) :
    (build context device source options).value = .fault ⟨.buildProgramFailure,
      some (Source.link context.registry.find? options.flags source.toList).log.render⟩ := by
  simp [build, hd, he]

end Build

/-- The kernels that a source text is linked to. -/
def linkedKernels (context : Context) (options : BuildOptions) (source : String) :
    List (String × Implementation) :=
  (Source.link context.registry.find? options.flags source.toList).kernels

variable (context : Context) (device : Device) (source : String) (options : BuildOptions)

theorem linkedKernels_links :
    Source.Links context.registry.find? (linkedKernels context options source) :=
  Source.link_links _ _

theorem linkedKernels_isWord :
    ∀ entry ∈ linkedKernels context options source, Source.IsWord entry.1.toList :=
  fun _ h => Source.link_isWord h

/-- The fast path is nothing to a build. -/
theorem build_cases :
    (∃ failure, ∀ on, (build context device source (options.withFastPath on)).value =
      .fault failure) ∨
    ∀ on, (build context device source (options.withFastPath on)).value =
      .ok ⟨context, options.withFastPath on, linkedKernels context options source⟩ := by
  by_cases hd : device = context.device
  · let log := (Source.link context.registry.find? options.flags source.toList).log
    by_cases he : log.errors = []
    · exact .inr fun on => build_linked (options.withFastPath on) hd he
    · exact .inl ⟨⟨.buildProgramFailure, some log.render⟩,
        fun on => build_broken (options.withFastPath on) hd he⟩
  · exact .inl ⟨_, fun on => build_elsewhere (options.withFastPath on) hd⟩

/-- The module of a program that was built with the fast path on, and of no other. -/
def moduleOf (options : BuildOptions) (kernels : List (String × Implementation)) :
    Option LoadedModule :=
  if options.fastPath then some ⟨Manifest.loadedKernels options kernels⟩ else none

theorem moduleOf_fast {options : BuildOptions} {kernels : List (String × Implementation)}
    (hf : options.fastPath = true) :
    moduleOf options kernels = some ⟨Manifest.loadedKernels options kernels⟩ := by
  simp [moduleOf, hf]

theorem moduleOf_native {options : BuildOptions} {kernels : List (String × Implementation)}
    (hf : options.fastPath = false) : moduleOf options kernels = none := by
  simp [moduleOf, hf]

variable (name : String) (m : Machine carriers)

/-- Once a program is built, its module loads if there is to be one. -/
theorem compile_built (hb : (build context device source options).value =
      .ok ⟨context, options, linkedKernels context options source⟩) :
    ∃ m', Program.compile backend context device name source options m =
        (.ok ⟨name, Program.nextHandle m,
          moduleOf options (linkedKernels context options source)⟩, m') ∧
      m'.programs =
        (m.programs.insert ⟨context, options, linkedKernels context options source⟩).2 := by
  cases hf : options.fastPath with
  | false =>
      rw [moduleOf_native hf]
      exact Program.compile_native hf hb
  | true =>
      obtain ⟨bytes, hn, hbytes, hload⟩ := load_binary
        ⟨context, options, linkedKernels context options source⟩
        (linkedKernels_links context source options) (linkedKernels_isWord context source options)
        options
      rw [moduleOf_fast hf]
      exact Program.compile_fast hf hb hn hbytes (congrArg Outcome.ofExcept hload)

theorem compile_cases :
    (∃ failure, ∀ on,
      (build context device source (options.withFastPath on)).value = .fault failure ∧
      (Program.compile backend context device name source (options.withFastPath on) m).1 =
        .fault (.compile name failure.code)) ∨
    ∀ on, ∃ m',
      Program.compile backend context device name source (options.withFastPath on) m =
        (.ok ⟨name, Program.nextHandle m,
          moduleOf (options.withFastPath on) (linkedKernels context options source)⟩, m') ∧
      m'.programs = (m.programs.insert
        ⟨context, options.withFastPath on, linkedKernels context options source⟩).2 := by
  rcases build_cases context device source options with ⟨failure, h⟩ | h
  · exact .inl ⟨failure, fun on => ⟨h on, Program.compile_fault (h on)⟩⟩
  · exact .inr fun on =>
      compile_built context device source (options.withFastPath on) name m (h on)

/-- What a program is made of, and what its handle stands for. -/
theorem compile_inv {p : Program carriers} {m' : Machine carriers}
    (h : Program.compile backend context device name source options m = (.ok p, m')) :
    p = ⟨name, Program.nextHandle m, moduleOf options (linkedKernels context options source)⟩ ∧
      Program.object? p.handle m' = some (m.programs.fresh,
        ⟨context, options, linkedKernels context options source⟩) := by
  rcases compile_cases context device source options name m with ⟨failure, hc⟩ | hc
  · have hf := (hc options.fastPath).2
    rw [BuildOptions.withFastPath_self, h] at hf
    cases hf
  · obtain ⟨m₁, hm, hp⟩ := hc options.fastPath
    rw [BuildOptions.withFastPath_self] at hm hp
    rw [h] at hm
    cases hm
    exact ⟨rfl, Program.object?_of_programs hp⟩

/-- A source text compiles with the fast path on exactly if it compiles with it off: it does if it
builds, and fails with the code of the build otherwise. The binary of a program loads, and the module
has the program's kernels: the same names, and under each the same code and the same macros. -/
theorem manifest_round_trip :
    (∃ failure, ∀ on,
      (build context device source (options.withFastPath on)).value = .fault failure ∧
      (Program.compile backend context device name source (options.withFastPath on) m).1 =
        .fault (.compile name failure.code)) ∨
    ∀ on,
      let object : ProgramObject :=
        ⟨context, options.withFastPath on, linkedKernels context options source⟩
      ∃ p h m' bytes loaded,
        Program.compile backend context device name source (options.withFastPath on) m =
          (.ok p, m') ∧
        Program.object? p.handle m' = some (h, object) ∧
        binary (some object) = .ok bytes ∧
        load context bytes (options.withFastPath on) = .ok loaded ∧
        p.module? = (if on then some loaded else none) ∧
        Agrees context.registry (h, object) loaded := by
  rcases compile_cases context device source options name m with h | h
  · exact .inl h
  · refine .inr fun on => ?_
    obtain ⟨m', hc, hp⟩ := h on
    have hl := linkedKernels_links context source options
    obtain ⟨bytes, _, hb, hload⟩ := load_binary
      ⟨context, options.withFastPath on, linkedKernels context options source⟩ hl
      (linkedKernels_isWord context source options) (options.withFastPath on)
    exact ⟨_, _, m', bytes, _, hc, Program.object?_of_programs hp, hb, hload, rfl,
      agrees_loadedKernels hl rfl⟩

example :
    (match Program.compile backend ⟨0, {}, .ofList Builtin.all, usualCapacity⟩ {} "program"
        "kernel void fill_f32() kernel void axpy_f32() kernel void fill_f32()"
        (.withFastPath {} true) { state := {} } with
      | (.ok p, _) => p.module?.map fun loaded => loaded.kernels.map (·.1)
      | _ => none) = some ["fill_f32", "axpy_f32"] := by
  decide +kernel

end Cpu

end Offload
