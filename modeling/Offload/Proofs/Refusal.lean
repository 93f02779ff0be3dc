import Offload.Gpu.Backend
import Offload.Gpu.Limits
import Offload.Proofs.FastPath

/-!
# What a GPU device refuses to build

The front end of a platform knows nothing of what its devices take. What the front end refuses is
reported as an error; what only the device refuses is not.
-/

namespace Offload.Gpu

/-! ## What the device takes -/

namespace Platform

variable (p : Platform) (context : Context)

/-- The device takes a text with the bindings of its interface. -/
def Takes (source : String) (shader : Interface) : Prop :=
  p.takesShader context source shader.bindings = true

/-- It takes the text and makes the pipelines of all entry points. -/
structure Loads (source : String) (shader : Interface) : Prop where
  takes : p.Takes context source shader
  pipelines : ∀ e ∈ (shader.object context source).executables, p.takesPipeline e = true

/-- It takes as much as a build with these options shows to it. -/
def TakesFor (options : BuildOptions) (source : String) (shader : Interface) : Prop :=
  if options.fastPath then p.Loads context source shader else p.Takes context source shader

instance (source : String) (shader : Interface) : Decidable (p.Takes context source shader) :=
  inferInstanceAs (Decidable (_ = true))

instance (source : String) (shader : Interface) : Decidable (p.Loads context source shader) :=
  decidable_of_iff (p.Takes context source shader ∧
      ∀ e ∈ (shader.object context source).executables, p.takesPipeline e = true)
    ⟨fun ⟨ht, hp⟩ => ⟨ht, hp⟩, fun h => ⟨h.takes, h.pipelines⟩⟩

instance (options : BuildOptions) (source : String) (shader : Interface) :
    Decidable (p.TakesFor context options source shader) :=
  inferInstanceAs (Decidable (if options.fastPath then p.Loads context source shader
    else p.Takes context source shader))

variable {p context} {source : String} {shader : Interface}

theorem TakesFor.takes {options : BuildOptions} (h : p.TakesFor context options source shader) :
    p.Takes context source shader := by
  unfold TakesFor at h
  split at h
  · exact h.takes
  · exact h

theorem createShader_eq :
    p.createShader context source shader =
      if p.Takes context source shader then .ok (shader.object context source)
      else .error .validation :=
  rfl

theorem mapM_createPipeline (executables : List Executable) :
    executables.mapM p.createPipeline =
      if ∀ e ∈ executables, p.takesPipeline e = true then .ok executables
      else .error .validation := by
  induction executables with
  | nil => simp [pure, Except.pure]
  | cons e rest ih =>
      rw [List.mapM_cons, ih, createPipeline]
      simp only [List.forall_mem_cons]
      by_cases he : p.takesPipeline e = true
      · by_cases hr : ∀ e ∈ rest, p.takesPipeline e = true
        · rw [if_pos he, if_pos hr, if_pos ⟨he, hr⟩]
          rfl
        · rw [if_pos he, if_neg hr, if_neg (mt And.right hr)]
          rfl
      · rw [if_neg he, if_neg (mt And.left he)]
        rfl

/-- The shader object and its pipelines are made one after another. -/
theorem createPipelines_eq :
    (do p.createPipelines (← p.createShader context source shader)) =
      if p.Loads context source shader then .ok ⟨(shader.object context source).executables⟩
      else .error .validation := by
  rw [createShader_eq]
  by_cases ht : p.Takes context source shader
  · rw [if_pos ht]
    show p.createPipelines (shader.object context source) = _
    rw [createPipelines, mapM_createPipeline]
    by_cases hp : ∀ e ∈ (shader.object context source).executables, p.takesPipeline e = true
    · rw [if_pos hp, if_pos ⟨ht, hp⟩]
      rfl
    · rw [if_neg hp, if_neg (mt Loads.pipelines hp)]
      rfl
  · rw [if_neg ht, if_neg (mt Loads.takes ht)]
    rfl

end Platform

/-! ## Builds and loads -/

section Build

variable (p : Platform) (context : Context) {device : Device} (source : String)
  (options : BuildOptions)

theorem build_elsewhere (hd : device.isSame context.device = false) :
    (p.build context device source options).value = .fault { code := .invalidDevice } := by
  simp only [Platform.build, hd]
  rfl

theorem build_eq (hd : device.isSame context.device = true) :
    (p.build context device source options).value =
      match p.analyze (definitions options ++ source) with
      | .error e => .fault ⟨.buildProgramFailure, some e.message⟩
      | .ok shader =>
        if p.Takes context (definitions options ++ source) shader then
          .ok ⟨shader.object context (definitions options ++ source), []⟩
        else .unwound .validation := by
  simp only [Platform.build, hd]
  cases p.analyze (definitions options ++ source) with
  | error e => rfl
  | ok shader =>
      simp only [Platform.createShader_eq]
      by_cases ht : p.Takes context (definitions options ++ source) shader
      · rw [if_pos ht, if_pos ht]
        rfl
      · rw [if_neg ht, if_neg ht]
        rfl

end Build

section Load

variable {p : Platform} {context : Context} {bytes : List UInt8} {source source' : String}
  {shader shader' : Interface}

/-- The bytes are a text with this interface. -/
structure IsBinaryOf (p : Platform) (bytes : List UInt8) (source : String) (shader : Interface) :
    Prop where
  text : Text.ofBytes? bytes = some source
  accepted : p.analyze source = .ok shader

theorem IsBinaryOf.unique (h : IsBinaryOf p bytes source shader)
    (h' : IsBinaryOf p bytes source' shader') : source = source' ∧ shader = shader' := by
  cases h.text.symm.trans h'.text
  exact ⟨rfl, Except.ok.inj (h.accepted.symm.trans h'.accepted)⟩

theorem load_isBinaryOf (h : IsBinaryOf p bytes source shader) :
    p.load context bytes =
      if p.Loads context source shader then .ok ⟨(shader.object context source).executables⟩
      else .unwound .validation := by
  simp only [Platform.load, h.text, h.accepted, Platform.createPipelines_eq]
  split <;> rfl

theorem load_other (h : ∀ source shader, ¬ IsBinaryOf p bytes source shader) :
    p.load context bytes = .fault .invalidBinary := by
  cases ht : Text.ofBytes? bytes with
  | none => simp only [Platform.load, ht]
  | some text =>
      cases ha : p.analyze text with
      | error e => simp only [Platform.load, ht, ha]
      | ok shader => exact absurd ⟨ht, ha⟩ (h text shader)

theorem isBinaryOf_toBytes (h : p.analyze source = .ok shader) :
    IsBinaryOf p (Text.toBytes source) source shader :=
  ⟨Text.ofBytes?_toBytes source, h⟩

theorem kernels_ne_nil_of_ofModule {m : Shader.Module} (h : Interface.ofModule m = .ok shader) :
    m.kernels ≠ [] := by
  intro hk
  rw [Interface.ofModule] at h
  cases hb : m.globals.mapM Interface.boundKind? with
  | error e => rw [hb] at h; cases h
  | ok bound =>
      cases hn : Interface.number (bound.filterMap id) with
      | error e => simp only [hb, bind, Except.bind, hn, reduceCtorEq] at h
      | ok kinds =>
          simp only [hb, bind, Except.bind, hn, hk, List.isEmpty_nil, if_true] at h
          cases h

/-- There is nothing in the empty text that could be launched. -/
theorem analyze_empty : p.analyze "" ≠ .ok shader := by
  intro h
  obtain ⟨m, hm, hi⟩ := p.analyze_eq_ok_iff.mp h
  refine kernels_ne_nil_of_ofModule hi ?_
  rw [Shader.Module.kernels, p.parse_empty m hm, List.filter_nil]

theorem toBytes_ne_nil (h : p.analyze source = .ok shader) : Text.toBytes source ≠ [] := by
  intro hn
  have he : some source = some "" := by
    rw [← Text.ofBytes?_toBytes source, ← Text.ofBytes?_toBytes "", hn]
    rfl
  cases he
  exact analyze_empty h

end Load

/-! ## Programs -/

section Compile

variable (p : Platform) (context : Context) {device : Device} (name source : String)
  (options : BuildOptions) (m : Machine carriers)

theorem compile_elsewhere (hd : device.isSame context.device = false) :
    (Program.compile p.backend context device name source options m).1 =
      .fault (.compile name .invalidDevice) :=
  Program.compile_fault (b := p.backend) (build_elsewhere p context source options hd)

theorem compile_refused {e : ShaderError} (hd : device.isSame context.device = true)
    (ha : p.analyze (definitions options ++ source) = .error e) :
    (Program.compile p.backend context device name source options m).1 =
      .fault (.compile name .buildProgramFailure) := by
  have hb := build_eq p context source options hd
  simp only [ha] at hb
  exact Program.compile_fault (b := p.backend) hb

/-- The module is made of the same text as the program, which the front end accepts again. -/
theorem compile_accepted {shader : Interface} (hd : device.isSame context.device = true)
    (ha : p.analyze (definitions options ++ source) = .ok shader) :
    (Program.compile p.backend context device name source options m).1 =
      let text := definitions options ++ source
      if p.TakesFor context options text shader then
        .ok ⟨name, Program.nextHandle m,
          if options.fastPath then some ⟨(shader.object context text).executables⟩ else none⟩
      else .unwound .validation := by
  have hb := build_eq p context source options hd
  simp only [ha] at hb
  by_cases ht : p.Takes context (definitions options ++ source) shader
  · rw [if_pos ht] at hb
    cases hf : options.fastPath with
    | false =>
        obtain ⟨m', hc, -⟩ : ∃ m', Program.compile p.backend context device name source options m =
            (.ok ⟨name, Program.nextHandle m, none⟩, m') ∧ _ := Program.compile_native hf hb
        rw [hc]
        simp only [Platform.TakesFor, hf, if_false, Bool.false_eq_true]
        rw [if_pos ht]
    | true =>
        rw [Program.compile_fast_fst (b := p.backend) hf hb (toBytes_ne_nil ha) rfl]
        show (p.load context _).mapFault _ >>= _ = _
        rw [load_isBinaryOf (isBinaryOf_toBytes ha)]
        simp only [Platform.TakesFor, hf, if_true]
        split <;> rfl
  · rw [if_neg ht] at hb
    show _ = if _ then _ else _
    rw [if_neg (mt Platform.TakesFor.takes ht)]
    exact Program.compile_unwound (b := p.backend) hb

end Compile

/-! ## What is reported -/

section Verdict

variable {ε α : Type} {c : Prop} [Decidable c] {a : α} {q : Panic}

theorem verdict_fault_iff (e : ε) :
    (if c then .ok a else .unwound q : Outcome ε α) = .fault e ↔ False := by
  split <;> simp

theorem verdict_unwound_iff (panic : Panic) :
    (if c then .ok a else .unwound q : Outcome ε α) = .unwound panic ↔ panic = q ∧ ¬ c := by
  split <;> simp [*, eq_comm]

end Verdict

section Report

variable (p : Platform) (context : Context) (device : Device) (name source : String)
  (options : BuildOptions) (m : Machine carriers)

theorem build_fault_iff (failure : BuildFailure) :
    (p.build context device source options).value = .fault failure ↔
      (device.isSame context.device = false ∧ failure = { code := .invalidDevice }) ∨
      device.isSame context.device = true ∧
        ∃ e, p.analyze (definitions options ++ source) = .error e ∧
          failure = ⟨.buildProgramFailure, some e.message⟩ := by
  cases hd : device.isSame context.device with
  | false => simp [build_elsewhere p context source options hd, eq_comm]
  | true =>
      rw [build_eq p context source options hd]
      cases p.analyze (definitions options ++ source) with
      | error e => simp [eq_comm]
      | ok shader => simp [verdict_fault_iff]

theorem build_unwound_iff (panic : Panic) :
    (p.build context device source options).value = .unwound panic ↔
      panic = .validation ∧ device.isSame context.device = true ∧
        ∃ shader, p.analyze (definitions options ++ source) = .ok shader ∧
          ¬ p.Takes context (definitions options ++ source) shader := by
  cases hd : device.isSame context.device with
  | false => simp [build_elsewhere p context source options hd]
  | true =>
      rw [build_eq p context source options hd]
      cases p.analyze (definitions options ++ source) with
      | error e => simp
      | ok shader => simp [verdict_unwound_iff]

theorem load_fault_iff (bytes : List UInt8) (code : StatusCode) :
    p.load context bytes = .fault code ↔
      code = .invalidBinary ∧ ∀ text shader, ¬ IsBinaryOf p bytes text shader := by
  by_cases h : ∃ text shader, IsBinaryOf p bytes text shader
  · obtain ⟨text, shader, hs⟩ := h
    rw [load_isBinaryOf hs, verdict_fault_iff, false_iff]
    exact fun hn => hn.2 text shader hs
  · simp only [not_exists] at h
    simp [load_other h, h, eq_comm]

theorem load_unwound_iff (bytes : List UInt8) (panic : Panic) :
    p.load context bytes = .unwound panic ↔
      panic = .validation ∧
        ∃ text shader, IsBinaryOf p bytes text shader ∧ ¬ p.Loads context text shader := by
  by_cases h : ∃ text shader, IsBinaryOf p bytes text shader
  · obtain ⟨text, shader, hs⟩ := h
    rw [load_isBinaryOf hs, verdict_unwound_iff]
    refine and_congr_right fun _ => ⟨fun hl => ⟨text, shader, hs, hl⟩, ?_⟩
    rintro ⟨text', shader', hs', hl⟩
    obtain ⟨rfl, rfl⟩ := hs.unique hs'
    exact hl
  · simp only [not_exists] at h
    simp [load_other h, h]

theorem compile_fault_iff (e : Error) :
    (Program.compile p.backend context device name source options m).1 = .fault e ↔
      (device.isSame context.device = false ∧ e = .compile name .invalidDevice) ∨
      device.isSame context.device = true ∧
        (∃ cause, p.analyze (definitions options ++ source) = .error cause) ∧
        e = .compile name .buildProgramFailure := by
  cases hd : device.isSame context.device with
  | false => simp [compile_elsewhere p context name source options m hd, eq_comm]
  | true =>
      cases ha : p.analyze (definitions options ++ source) with
      | error cause => simp [compile_refused p context name source options m hd ha, eq_comm]
      | ok shader =>
          rw [compile_accepted p context name source options m hd ha, verdict_fault_iff]
          simp

theorem compile_unwound_iff (panic : Panic) :
    (Program.compile p.backend context device name source options m).1 = .unwound panic ↔
      panic = .validation ∧ device.isSame context.device = true ∧
        ∃ shader, p.analyze (definitions options ++ source) = .ok shader ∧
          ¬ p.TakesFor context options (definitions options ++ source) shader := by
  cases hd : device.isSame context.device with
  | false => simp [compile_elsewhere p context name source options m hd]
  | true =>
      cases ha : p.analyze (definitions options ++ source) with
      | error cause => simp [compile_refused p context name source options m hd ha]
      | ok shader =>
          rw [compile_accepted p context name source options m hd ha, verdict_unwound_iff]
          simp

/-- Whatever front end and devices there are, builds, loads and compilations fail with an error
exactly if the device is not that of the context or the text is no shader, and unwind exactly if the
text is a shader that only the device refuses. Otherwise they succeed. A program whose module is
loaded too needs the pipelines of all its entry points as well. -/
theorem builds_report (bytes : List UInt8) :
    let text := definitions options ++ source
    let sameDevice := device.isSame context.device = true
    let built := (p.build context device source options).value
    let loaded := p.load context bytes
    let compiled := (Program.compile p.backend context device name source options m).1
    ((∀ failure, built = .fault failure ↔
        (¬ sameDevice ∧ failure = { code := .invalidDevice }) ∨
        sameDevice ∧ ∃ e, p.analyze text = .error e ∧
          failure = ⟨.buildProgramFailure, some e.message⟩) ∧
      ∀ panic, built = .unwound panic ↔ panic = .validation ∧ sameDevice ∧
        ∃ shader, p.analyze text = .ok shader ∧ ¬ p.Takes context text shader) ∧
    ((∀ code, loaded = .fault code ↔
        code = .invalidBinary ∧ ∀ binary shader, ¬ IsBinaryOf p bytes binary shader) ∧
      ∀ panic, loaded = .unwound panic ↔ panic = .validation ∧
        ∃ binary shader, IsBinaryOf p bytes binary shader ∧ ¬ p.Loads context binary shader) ∧
    (∀ e, compiled = .fault e ↔
        (¬ sameDevice ∧ e = .compile name .invalidDevice) ∨
        sameDevice ∧ (∃ cause, p.analyze text = .error cause) ∧
          e = .compile name .buildProgramFailure) ∧
      ∀ panic, compiled = .unwound panic ↔ panic = .validation ∧ sameDevice ∧
        ∃ shader, p.analyze text = .ok shader ∧ ¬ p.TakesFor context options text shader := by
  simp only [Bool.not_eq_true]
  exact ⟨⟨build_fault_iff p context device source options,
      build_unwound_iff p context device source options⟩,
    ⟨load_fault_iff p context bytes, load_unwound_iff p context bytes⟩,
    compile_fault_iff p context device name source options m,
    compile_unwound_iff p context device name source options m⟩

end Report

/-- Nine storage buffers. -/
def crowded : Shader.Module where
  globals := (List.range 9).map fun i => ⟨some s!"b{i}", .storage false, some (0, i)⟩
  entryPoints := [⟨"main", .ofList [1], true⟩]

def crowdedText : String :=
  String.join ((List.range 9).map fun i => s!"@group(0) @binding({i}) var<storage> b{i}: u32; ") ++
    "@compute @workgroup_size(1) fn main() \x7b\x7d"

/-- Work groups of 512 items. -/
def spacious : Shader.Module where
  entryPoints := [⟨"main", .ofList [512], true⟩]

def spaciousText : String := "@compute @workgroup_size(512) fn main() \x7b\x7d"

theorem ofModule_crowded :
    Interface.ofModule crowded = .ok ⟨List.replicate 9 (.storage true), crowded.kernels⟩ := by
  have sorted : ((List.range 9).map fun i => (i, BindingKind.storage true)).mergeSort
        (fun a b => a.1 ≤ b.1) = (List.range 9).map fun i => (i, BindingKind.storage true) :=
    List.mergeSort_of_pairwise (by decide)
  have numbered : Interface.number ((List.range 9).map fun i => (i, BindingKind.storage true)) =
      .ok (List.replicate 9 (.storage true)) := by
    simp only [Interface.number, sorted]
    rfl
  show (Interface.number ((List.range 9).map fun i => (i, BindingKind.storage true))).bind _ = _
  rw [numbered]
  rfl

/-- Nine storage buffers are too many for a device of the usual limits, and a large work group is
too large for it once the fast path makes the pipeline. Neither is an error. -/
theorem unknown_to_device_unwinds :
    let p := Platform.knowing [(crowdedText, crowded), (spaciousText, spacious)]
    let compiled := fun source fast =>
      (Program.compile p.backend ⟨0, ⟨0, none⟩⟩ ⟨0, none⟩ "program" source
        (.withFastPath {} fast) { state := () }).1
    compiled crowdedText false = .unwound .validation ∧
      compiled spaciousText true = .unwound .validation := by
  intro p compiled
  constructor
  · have parsed : p.parse (definitions {} ++ crowdedText) = .ok crowded :=
      Platform.parse_knowing (by decide +kernel) (by decide +kernel)
    have accepted := p.analyze_eq_ok_iff.mpr ⟨crowded, parsed, ofModule_crowded⟩
    exact (compile_unwound_iff p _ _ _ _ _ _ _).mpr ⟨rfl, rfl, _, accepted, by decide⟩
  · exact Outcome.panic?_eq_some_iff.mp (by decide +kernel)

end Offload.Gpu
