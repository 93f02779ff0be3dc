import Offload.Program

/-!
# Compilations

A compilation builds the program and, with the fast path on, takes its binary and loads it. It ends
with the first step that fails. The reference that the build handed out is then given back, so that
nothing is left of the program.
-/

namespace Offload

namespace Store

variable {α : Type} {s : Store α}

/-- A value whose only reference is given back was never there. -/
theorem cell?_release_insert (s : Store α) (value : α) (h : Handle) :
    ((s.insert value).2.release s.fresh).cell? h = s.cell? h := by
  by_cases hf : h = s.fresh
  · rw [hf, release, cell?_adjust_self, cell?_insert, if_pos rfl, cell?_fresh]
    rfl
  · rw [release, cell?_adjust_ne hf, cell?_insert, if_neg hf]

theorem refs_of_cell? {t : Store α} {h : Handle} (hc : t.cell? h = s.cell? h) :
    t.refs h = s.refs h := by
  rw [refs, refs, hc]

/-- The first reference to a value is the only one, and no other count changes. -/
theorem refs_insert (s : Store α) (value : α) (h : Handle) :
    (s.insert value).2.refs h = if h = s.fresh then 1 else s.refs h := by
  rw [refs, cell?_insert]
  split <;> rfl

end Store

namespace Program

variable {T : Carriers}

section Steps

variable (b : Backend T) (context : T.Context) (device : T.Device) (source : String)
  (options : BuildOptions)

/-- What a compilation makes, once all of its steps succeed. -/
inductive Succeeds : T.Program → Option T.Module → Prop where
  | native {object} (built : (b.build context device source options).value = .ok object)
      (off : options.fastPath = false) :
      Succeeds object none
  | fast {object bytes loaded}
      (built : (b.build context device source options).value = .ok object)
      (on : options.fastPath = true) (obtained : b.binary (some object) = .ok bytes)
      (filled : bytes ≠ []) (loads : (b.load context bytes options).value = .ok loaded) :
      Succeeds object (some loaded)

/-- The code of the first step that fails. -/
inductive StopsWith : StatusCode → Prop where
  | build {failure} (failed : (b.build context device source options).value = .fault failure) :
      StopsWith failure.code
  | binary {object code} (built : (b.build context device source options).value = .ok object)
      (on : options.fastPath = true) (failed : b.binary (some object) = .error code) :
      StopsWith code
  | empty {object} (built : (b.build context device source options).value = .ok object)
      (on : options.fastPath = true) (obtained : b.binary (some object) = .ok []) :
      StopsWith .invalidBinary
  | load {object bytes code} (built : (b.build context device source options).value = .ok object)
      (on : options.fastPath = true) (obtained : b.binary (some object) = .ok bytes)
      (filled : bytes ≠ []) (failed : (b.load context bytes options).value = .fault code) :
      StopsWith code

/-- The first step that does not succeed unwinds. -/
inductive Unwinds : Panic → Prop where
  | build {p} (unwound : (b.build context device source options).value = .unwound p) : Unwinds p
  | load {object bytes p} (built : (b.build context device source options).value = .ok object)
      (on : options.fastPath = true) (obtained : b.binary (some object) = .ok bytes)
      (filled : bytes ≠ []) (unwound : (b.load context bytes options).value = .unwound p) :
      Unwinds p

/-- A compilation comes to an end in one of these ways. -/
theorem steps_cases :
    (∃ object module?, Succeeds b context device source options object module?) ∨
      (∃ code, StopsWith b context device source options code) ∨
      ∃ p, Unwinds b context device source options p := by
  cases built : (b.build context device source options).value with
  | fault failure => exact .inr (.inl ⟨_, .build built⟩)
  | unwound p => exact .inr (.inr ⟨_, .build built⟩)
  | ok object =>
      cases hf : options.fastPath with
      | false => exact .inl ⟨_, _, .native built hf⟩
      | true =>
          cases obtained : b.binary (some object) with
          | error code => exact .inr (.inl ⟨_, .binary built hf obtained⟩)
          | ok bytes =>
              by_cases filled : bytes = []
              · subst filled
                exact .inr (.inl ⟨_, .empty built hf obtained⟩)
              · cases loads : (b.load context bytes options).value with
                | ok loaded => exact .inl ⟨_, _, .fast built hf obtained filled loads⟩
                | fault code => exact .inr (.inl ⟨_, .load built hf obtained filled loads⟩)
                | unwound p => exact .inr (.inr ⟨_, .load built hf obtained filled loads⟩)

end Steps

variable {b : Backend T} {context : T.Context} {device : T.Device} {name source : String}
  {options : BuildOptions} {m : Machine T}

/-! ## Steps -/

/-- The reference to the program that is built next. -/
def nextHandle (m : Machine T) : Reference Handle := .ofRaw m.programs.fresh

theorem object?_of_programs {object : T.Program} {m' : Machine T}
    (h : m'.programs = (m.programs.insert object).2) :
    object? (nextHandle m) m' = some (m.programs.fresh, object) := by
  have hg := m.programs.get?_insert object
  show ((m'.programs.get? m.programs.fresh).bind fun object =>
    some (m.programs.fresh, object)) = _
  rw [h]
  exact congrArg (·.bind fun object => some (m.programs.fresh, object)) hg

theorem buildHandle_ok {object : T.Program} (name : String) (m : Machine T)
    (h : (b.build context device source options).value = .ok object) :
    ∃ m', buildHandle b context device name source options m = (.ok m.programs.fresh, m') ∧
      m'.programs = (m.programs.insert object).2 := by
  simp only [buildHandle, Action.ofLogged, h]
  exact ⟨_, rfl, rfl⟩

theorem buildHandle_failed {failure : BuildFailure} (name : String) (m : Machine T)
    (h : (b.build context device source options).value = .fault failure) :
    ∃ m', buildHandle b context device name source options m = (.fault failure.code, m') ∧
      m'.programs = m.programs := by
  simp only [buildHandle, Action.ofLogged, h, reportLog]
  split <;> exact ⟨_, rfl, rfl⟩

theorem buildHandle_unwound {p : Panic} (name : String) (m : Machine T)
    (h : (b.build context device source options).value = .unwound p) :
    ∃ m', buildHandle b context device name source options m = (.unwound p, m') ∧
      m'.programs = m.programs := by
  simp only [buildHandle, Action.ofLogged, h]
  exact ⟨_, rfl, rfl⟩

theorem fastModule_off (off : options.fastPath = false) (handle : Reference Handle)
    (m : Machine T) : fastModule b context options handle m = (.ok none, m) := by
  rw [fastModule, off]
  rfl

section Fast

variable {object : T.Program} {handle : Reference Handle} {h : Handle}

theorem fastModule_binary_error {code : StatusCode} (on : options.fastPath = true)
    (ho : object? handle m = some (h, object)) (failed : b.binary (some object) = .error code) :
    fastModule b context options handle m = (.fault code, m) := by
  simp only [fastModule, on, if_true, bind, Action.bind, loadModule, ho, Option.map_some, failed]

theorem fastModule_empty (on : options.fastPath = true)
    (ho : object? handle m = some (h, object)) (obtained : b.binary (some object) = .ok []) :
    fastModule b context options handle m = (.fault .invalidBinary, m) := by
  simp only [fastModule, on, if_true, bind, Action.bind, loadModule, ho, Option.map_some, obtained]

/-- A binary that is not empty is loaded, and the load decides. -/
theorem fastModule_load {bytes : List UInt8} (on : options.fastPath = true)
    (ho : object? handle m = some (h, object)) (obtained : b.binary (some object) = .ok bytes)
    (filled : bytes ≠ []) :
    ∃ m', fastModule b context options handle m =
        ((b.load context bytes options).value >>= fun loaded => .ok (some loaded), m') ∧
      m'.programs = m.programs := by
  cases bytes with
  | nil => exact absurd rfl filled
  | cons first rest =>
      simp only [fastModule, on, if_true, bind, Action.bind, loadModule, ho, Option.map_some,
        obtained, Action.ofLogged]
      cases (b.load context (first :: rest) options).value with
      | ok loaded => exact ⟨_, rfl, rfl⟩
      | fault code => exact ⟨_, rfl, rfl⟩
      | unwound p => exact ⟨_, rfl, rfl⟩

end Fast

/-! ## All of a compilation -/

/-- What is left of a program that was built: all of it if its fast path succeeds. -/
def Leaves (m : Machine T) (object : T.Program) (m' : Machine T) :
    Outcome StatusCode (Option T.Module) → Prop
  | .ok _ => m'.programs = (m.programs.insert object).2
  | .fault _ => ∀ h, m'.programs.cell? h = m.programs.cell? h
  | .unwound _ => ∀ h, m'.programs.cell? h = m.programs.cell? h

/-- With a program built, a compilation ends as its fast path does. -/
theorem compile_of_built {object : T.Program} {r : Outcome StatusCode (Option T.Module)}
    {m' m'' : Machine T}
    (hb : buildHandle b context device name source options m = (.ok m.programs.fresh, m'))
    (hp : m'.programs = (m.programs.insert object).2)
    (hf : fastModule b context options (nextHandle m) m' = (r, m''))
    (hp' : m''.programs = m'.programs) :
    ∃ m', compile b context device name source options m =
        (r.mapFault (.compile name) >>= fun module? => .ok ⟨name, nextHandle m, module?⟩, m') ∧
      Leaves m object m' r := by
  have hs : m''.programs = (m.programs.insert object).2 := hp'.trans hp
  have hr h : (m''.programs.release m.programs.fresh).cell? h = m.programs.cell? h := by
    rw [hs, Store.cell?_release_insert]
  simp only [compile, Action.mapFault, bind, Action.bind, hb]
  rw [show Reference.ofRaw m.programs.fresh = nextHandle m from rfl, hf]
  cases r with
  | ok module? => exact ⟨_, rfl, hs⟩
  | fault code => exact ⟨_, rfl, hr⟩
  | unwound p => exact ⟨_, rfl, hr⟩

/-- With a binary that is not empty, it ends as the load does. -/
theorem compile_of_load {object : T.Program} {bytes : List UInt8} {r : Outcome StatusCode T.Module}
    (name : String) (m : Machine T)
    (built : (b.build context device source options).value = .ok object)
    (on : options.fastPath = true) (obtained : b.binary (some object) = .ok bytes)
    (filled : bytes ≠ []) (loads : (b.load context bytes options).value = r) :
    ∃ m', compile b context device name source options m =
        ((r >>= fun loaded => .ok (some loaded)).mapFault (.compile name) >>= fun module? =>
          .ok ⟨name, nextHandle m, module?⟩, m') ∧
      Leaves m object m' (r >>= fun loaded => .ok (some loaded)) := by
  obtain ⟨m₁, hb, hp⟩ := buildHandle_ok name m built
  obtain ⟨m₂, hf, hp₂⟩ := fastModule_load (m := m₁) on (object?_of_programs hp) obtained filled
  rw [loads] at hf
  exact compile_of_built hb hp hf hp₂

theorem compile_of_succeeds {object : T.Program} {module? : Option T.Module} (name : String)
    (m : Machine T) (h : Succeeds b context device source options object module?) :
    ∃ m', compile b context device name source options m =
        (.ok ⟨name, nextHandle m, module?⟩, m') ∧
      m'.programs = (m.programs.insert object).2 := by
  cases h with
  | native built off =>
      obtain ⟨m₁, hb, hp⟩ := buildHandle_ok name m built
      exact compile_of_built hb hp (fastModule_off off _ m₁) rfl
  | fast built on obtained filled loads =>
      exact compile_of_load name m built on obtained filled loads

theorem compile_of_stops {code : StatusCode} (name : String) (m : Machine T)
    (h : StopsWith b context device source options code) :
    ∃ m', compile b context device name source options m = (.fault (.compile name code), m') ∧
      ∀ h, m'.programs.cell? h = m.programs.cell? h := by
  cases h with
  | build failed =>
      obtain ⟨m₁, hb, hp⟩ := buildHandle_failed name m failed
      simp only [compile, Action.mapFault, bind, Action.bind, hb]
      exact ⟨m₁, rfl, fun h => congrArg (·.cell? h) hp⟩
  | binary built on failed =>
      obtain ⟨m₁, hb, hp⟩ := buildHandle_ok name m built
      exact compile_of_built hb hp (fastModule_binary_error on (object?_of_programs hp) failed) rfl
  | empty built on obtained =>
      obtain ⟨m₁, hb, hp⟩ := buildHandle_ok name m built
      exact compile_of_built hb hp (fastModule_empty on (object?_of_programs hp) obtained) rfl
  | load built on obtained filled failed =>
      exact compile_of_load name m built on obtained filled failed

theorem compile_of_unwinds {p : Panic} (name : String) (m : Machine T)
    (h : Unwinds b context device source options p) :
    ∃ m', compile b context device name source options m = (.unwound p, m') ∧
      ∀ h, m'.programs.cell? h = m.programs.cell? h := by
  cases h with
  | build unwound =>
      obtain ⟨m₁, hb, hp⟩ := buildHandle_unwound name m unwound
      simp only [compile, Action.mapFault, bind, Action.bind, hb]
      exact ⟨m₁, rfl, fun h => congrArg (·.cell? h) hp⟩
  | load built on obtained filled unwound =>
      exact compile_of_load name m built on obtained filled unwound

/-! How a compilation ends tells which steps it took. -/

theorem exists_succeeds_iff :
    (∃ object module?, Succeeds b context device source options object module?) ↔
      ∃ object, (b.build context device source options).value = .ok object ∧
        (options.fastPath = true → ∃ bytes loaded, b.binary (some object) = .ok bytes ∧
          bytes ≠ [] ∧ (b.load context bytes options).value = .ok loaded) := by
  constructor
  · rintro ⟨object, module?, h⟩
    cases h with
    | native built off => exact ⟨object, built, fun on => absurd (off.symm.trans on) nofun⟩
    | fast built on obtained filled loads =>
        exact ⟨object, built, fun _ => ⟨_, _, obtained, filled, loads⟩⟩
  · rintro ⟨object, built, h⟩
    cases hf : options.fastPath with
    | false => exact ⟨object, none, .native built hf⟩
    | true =>
        obtain ⟨bytes, loaded, obtained, filled, loads⟩ := h hf
        exact ⟨object, some loaded, .fast built hf obtained filled loads⟩

/-- How a compilation ends, by the steps it took. -/
inductive Ends (b : Backend T) (context : T.Context) (device : T.Device) (name source : String)
    (options : BuildOptions) (m : Machine T) : Outcome Error (Program T) → Prop where
  | ok {object module?} (steps : Succeeds b context device source options object module?) :
      Ends b context device name source options m (.ok ⟨name, nextHandle m, module?⟩)
  | fault {code} (step : StopsWith b context device source options code) :
      Ends b context device name source options m (.fault (.compile name code))
  | unwound {p} (step : Unwinds b context device source options p) :
      Ends b context device name source options m (.unwound p)

theorem compile_ends (b : Backend T) (context : T.Context) (device : T.Device)
    (name source : String) (options : BuildOptions) (m : Machine T) :
    Ends b context device name source options m
      (compile b context device name source options m).1 := by
  obtain ⟨object, module?, steps⟩ | ⟨code, step⟩ | ⟨p, step⟩ :=
    steps_cases b context device source options
  · obtain ⟨m', hc, -⟩ := compile_of_succeeds name m steps
    rw [hc]
    exact .ok steps
  · obtain ⟨m', hc, -⟩ := compile_of_stops name m step
    rw [hc]
    exact .fault step
  · obtain ⟨m', hc, -⟩ := compile_of_unwinds name m step
    rw [hc]
    exact .unwound step

theorem compile_eq_ok {p : Program T}
    (h : (compile b context device name source options m).1 = .ok p) :
    ∃ object module?, Succeeds b context device source options object module? ∧
      p = ⟨name, nextHandle m, module?⟩ := by
  have he := compile_ends b context device name source options m
  rw [h] at he
  cases he with
  | ok steps => exact ⟨_, _, steps, rfl⟩

theorem compile_eq_fault_iff {e : Error} :
    (compile b context device name source options m).1 = .fault e ↔
      ∃ code, e = .compile name code ∧ StopsWith b context device source options code := by
  constructor
  · intro h
    have he := compile_ends b context device name source options m
    rw [h] at he
    cases he with
    | fault step => exact ⟨_, rfl, step⟩
  · rintro ⟨code, rfl, step⟩
    obtain ⟨m', hc, -⟩ := compile_of_stops name m step
    rw [hc]

theorem compile_eq_unwound_iff {p : Panic} :
    (compile b context device name source options m).1 = .unwound p ↔
      Unwinds b context device source options p := by
  constructor
  · intro h
    have he := compile_ends b context device name source options m
    rw [h] at he
    cases he with
    | unwound step => exact step
  · intro step
    obtain ⟨m', hc, -⟩ := compile_of_unwinds name m step
    rw [hc]

theorem Succeeds.module?_isSome {object : T.Program} {module? : Option T.Module}
    (h : Succeeds b context device source options object module?) :
    module?.isSome = options.fastPath := by
  cases h with
  | native _ off => exact off.symm
  | fast _ on _ _ _ => exact on.symm

/-- Unless a compilation succeeds, no program and no reference to one changes. -/
theorem compile_undone (hn : ∀ p, (compile b context device name source options m).1 ≠ .ok p)
    (h : Handle) :
    (compile b context device name source options m).2.programs.cell? h =
      m.programs.cell? h := by
  obtain ⟨object, module?, steps⟩ | ⟨code, step⟩ | ⟨p, step⟩ :=
    steps_cases b context device source options
  · obtain ⟨m', hc, -⟩ := compile_of_succeeds name m steps
    exact absurd (congrArg Prod.fst hc) (hn _)
  · obtain ⟨m', hc, hm⟩ := compile_of_stops name m step
    rw [hc]
    exact hm h
  · obtain ⟨m', hc, hm⟩ := compile_of_unwinds name m step
    rw [hc]
    exact hm h

/-- A program that was compiled is new, and it owns the only reference to itself. -/
theorem compile_owns {p : Program T}
    (h : (compile b context device name source options m).1 = .ok p) :
    p.name = name ∧ p.module?.isSome = options.fastPath ∧
      ∃ h, p.handle = .ofRaw h ∧ m.programs.refs h = 0 ∧
        ∀ k, (compile b context device name source options m).2.programs.refs k =
          if k = h then 1 else m.programs.refs k := by
  obtain ⟨object, module?, steps, rfl⟩ := compile_eq_ok h
  obtain ⟨m', hc, hp⟩ := compile_of_succeeds name m steps
  refine ⟨rfl, steps.module?_isSome, m.programs.fresh, rfl, ?_, fun k => ?_⟩
  · rw [Store.refs, Store.cell?_fresh]
    rfl
  · rw [hc, hp]
    exact m.programs.refs_insert object k

/-! ## What compilations leave alone -/

/-- A machine without what programs are about. -/
def elsewhere (m : Machine T) : Machine T := { m with programs := {}, log := [] }

theorem ofLogged_keeps {ε α : Type} (x : Logged (Outcome ε α)) :
    (Action.ofLogged x : Action (Machine T) ε α).Keeps elsewhere := fun _ => rfl

theorem buildHandle_keeps (b : Backend T) (context : T.Context) (device : T.Device)
    (name source : String) (options : BuildOptions) :
    (buildHandle b context device name source options).Keeps elsewhere := by
  intro m
  simp only [buildHandle, Action.ofLogged]
  cases (b.build context device source options).value with
  | ok object => rfl
  | fault failure =>
      simp only [reportLog]
      split <;> rfl
  | unwound p => rfl

theorem fastModule_keeps (b : Backend T) (context : T.Context) (options : BuildOptions)
    (handle : Reference Handle) : (fastModule b context options handle).Keeps elsewhere := by
  unfold fastModule
  split
  · refine .bind (fun m => ?_) fun loaded => .pure (some loaded)
    unfold loadModule
    split
    · rfl
    · rfl
    · exact ofLogged_keeps _ m
  · exact .pure none

theorem compile_keeps (b : Backend T) (context : T.Context) (device : T.Device)
    (name source : String) (options : BuildOptions) :
    (compile b context device name source options).Keeps elsewhere := by
  refine .mapFault (.bind (buildHandle_keeps b context device name source options) fun raw m => ?_)
  have hf := fastModule_keeps b context options (.ofRaw raw) m
  cases hm : fastModule b context options (.ofRaw raw) m with
  | mk r m' =>
      rw [hm] at hf
      cases r with
      | ok module? => exact hf
      | fault code => exact hf
      | unwound p => exact hf

/-- With the fast path off, it makes no difference what binaries are and how they are loaded. -/
theorem compile_without_fast (off : options.fastPath = false)
    (binary : Option T.Program → Except StatusCode (List UInt8))
    (load : T.Context → List UInt8 → BuildOptions → Logged (Outcome StatusCode T.Module)) :
    compile { b with binary, load } context device name source options =
      compile b context device name source options := by
  simp only [compile, fastModule, off]
  rfl

/-- A compilation succeeds exactly if all of its steps do, and fails with the code of the first one
that does not. After one that fails, all programs are as they were before, with the references to
them; one that succeeds owns the only reference to a new program. -/
theorem compile_all_or_nothing (b : Backend T) (context : T.Context) (device : T.Device)
    (name source : String) (options : BuildOptions) (m : Machine T) :
    let r := compile b context device name source options m
    ((∃ p, r.1 = .ok p) ↔
      ∃ object, (b.build context device source options).value = .ok object ∧
        (options.fastPath = true → ∃ bytes loaded, b.binary (some object) = .ok bytes ∧
          bytes ≠ [] ∧ (b.load context bytes options).value = .ok loaded)) ∧
    (∀ e, r.1 = .fault e ↔
      ∃ code, e = .compile name code ∧ StopsWith b context device source options code) ∧
    (∀ p, r.1 = .unwound p ↔ Unwinds b context device source options p) ∧
    ((∀ p, r.1 ≠ .ok p) → ∀ h, r.2.programs.refs h = m.programs.refs h ∧
      r.2.programs.get? h = m.programs.get? h) ∧
    (∀ p, r.1 = .ok p → p.name = name ∧ p.module?.isSome = options.fastPath ∧
      ∃ h, p.handle = .ofRaw h ∧ m.programs.refs h = 0 ∧
        ∀ k, r.2.programs.refs k = if k = h then 1 else m.programs.refs k) ∧
    (∃ programs log, r.2 = { m with programs, log }) ∧
    (options.fastPath = false → ∀ binary load,
      compile { b with binary, load } context device name source options m = r) := by
  intro r
  refine ⟨?_, fun e => compile_eq_fault_iff, fun p => compile_eq_unwound_iff, fun hn h => ?_,
    fun p => compile_owns, ?_, fun off binary load => ?_⟩
  · rw [← exists_succeeds_iff]
    constructor
    · rintro ⟨p, hr⟩
      obtain ⟨object, module?, steps, -⟩ := compile_eq_ok hr
      exact ⟨object, module?, steps⟩
    · rintro ⟨object, module?, steps⟩
      obtain ⟨m', hc, -⟩ := compile_of_succeeds name m steps
      exact ⟨_, congrArg Prod.fst hc⟩
  · have hc := compile_undone hn h
    exact ⟨Store.refs_of_cell? hc, congrArg (Option.map Counted.value) hc⟩
  · have hk : elsewhere r.2 = elsewhere m := compile_keeps b context device name source options m
    exact ⟨r.2.programs, r.2.log, congrArg
      (fun rest : Machine T => { rest with programs := r.2.programs, log := r.2.log }) hk⟩
  · rw [compile_without_fast off]

end Program

end Offload
