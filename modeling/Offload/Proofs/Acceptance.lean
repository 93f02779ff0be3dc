import Offload.Proofs.FastPath
import Offload.Proofs.Lists
import Offload.Proofs.Nesting
import Offload.Proofs.Reading

/-!
# What the compiler accepts

A source text builds exactly if it can be linked: if its comments are closed, its brackets nest, and
it declares kernels that are all known, none of them twice where that counts as an error.
-/

namespace Offload.Source

/-! ## Declarations -/

/-- The tokens begin with the declaration of `name`. -/
def IsDeclaration (name : String) (ts : List Token) : Prop :=
  ∃ qualifier word rest,
    (qualifier = "__kernel".toList ∨ qualifier = "kernel".toList) ∧ name = String.ofList word ∧
    ts = .word qualifier :: .word "void".toList :: .word word :: .mark '(' :: rest

/-- The names that a token list declares, in order. -/
inductive Declares : List Token → List String → Prop where
  | nil : Declares [] []
  | here {name : String} {t : Token} {rest : List Token} {names : List String} :
      IsDeclaration name (t :: rest) → Declares rest names → Declares (t :: rest) (name :: names)
  | past {t : Token} {rest : List Token} {names : List String} :
      (∀ name, ¬IsDeclaration name (t :: rest)) → Declares rest names → Declares (t :: rest) names

theorem declaration?_iff {name : String} {ts : List (Located Token)} :
    (declaration? ts).map (·.value) = some name ↔ IsDeclaration name (ts.map (·.value)) := by
  constructor
  · intro h
    unfold declaration? at h
    split at h
    · rename_i line qualifier _ type _ word _ rest
      split at h
      · rename_i hw
        simp only [isKernelWord, Bool.and_eq_true, Bool.or_eq_true, beq_iff_eq] at hw
        obtain ⟨hq, rfl⟩ := hw
        exact ⟨qualifier, word, _, hq, (Option.some.inj h).symm, rfl⟩
      · cases h
    · cases h
  · rintro ⟨qualifier, word, rest, hq, rfl, hts⟩
    simp only [List.map_eq_cons_iff] at hts
    obtain ⟨⟨_, _⟩, _, rfl, rfl, ⟨_, _⟩, _, rfl, rfl, ⟨_, _⟩, _, rfl, rfl, ⟨_, _⟩, _, rfl, rfl, _⟩ :=
      hts
    rcases hq with rfl | rfl <;> simp [declaration?, isKernelWord]

/-- The declarations of a token list are those that a reader would find. -/
theorem declarations_iff {ts : List (Located Token)} {names : List String} :
    (declarations ts).map (·.value) = names ↔ Declares (ts.map (·.value)) names := by
  induction ts generalizing names with
  | nil =>
      constructor
      · rintro rfl
        exact .nil
      · intro h
        cases h
        rfl
  | cons t rest ih =>
      rw [declarations]
      cases hd : declaration? (t :: rest) with
      | none =>
          have hn : ∀ name, ¬IsDeclaration name ((t :: rest).map (·.value)) := by
            intro name h
            rw [← declaration?_iff, hd] at h
            cases h
          constructor
          · exact fun h => .past hn (ih.mp h)
          · intro h
            cases h with
            | here hh _ => exact absurd hh (hn _)
            | past _ hr => exact ih.mpr hr
      | some d =>
          have hn : IsDeclaration d.value ((t :: rest).map (·.value)) :=
            declaration?_iff.mp (by rw [hd]; rfl)
          constructor
          · rintro rfl
            exact .here hn (ih.mp rfl)
          · intro h
            cases h with
            | here hh hr =>
                have hv : (declaration? (t :: rest)).map (·.value) = some _ :=
                  declaration?_iff.mpr hh
                rw [hd] at hv
                cases hv
                exact congrArg _ (ih.mpr hr)
            | past hh _ => exact absurd hn (hh _)

/-- A text without faults of its own, and the names that it declares. -/
def Parses (text : List Char) (names : List String) : Prop :=
  ∃ plain ts, Uncomments text plain ∧ Reads plain ts ∧ Nested (brackets ts) ∧ Declares ts names

theorem surface_iff {text : List Char} {names : List String} :
    surfaceErrors text = [] ∧ (declared text).map (·.value) = names ↔ Parses text names := by
  unfold surfaceErrors declared
  cases hu : uncomment text with
  | mk plain unclosed? =>
      rw [List.append_eq_nil_iff, Option.toList_eq_nil_iff, Option.map_eq_none_iff,
        Option.toList_eq_nil_iff, bracketProblem?_nil_iff, declarations_iff]
      constructor
      · rintro ⟨⟨rfl, hb⟩, hd⟩
        exact ⟨plain, _, uncomment_iff.mp hu, tokens_iff.mp rfl, hb, hd⟩
      · rintro ⟨plain', ts, hc, ht, hb, hd⟩
        rw [← uncomment_iff, hu] at hc
        cases hc
        rw [← tokens_iff] at ht
        subst ht
        exact ⟨⟨rfl, hb⟩, hd⟩

/-! ## Linking -/

variable {κ : Type} {find? : String → Option κ}

theorem eraseDups_append_singleton {names : List String} {name : String} :
    (names ++ [name]).eraseDups =
      if name ∈ names then names.eraseDups else names.eraseDups ++ [name] := by
  rw [List.eraseDups_append]
  by_cases h : name ∈ names <;> simp [List.removeAll, List.eraseDups_cons, h]

namespace Linked

/-- All of `names` are linked, in order and once each. There are warnings exactly if one of them was
met again. -/
structure Covers (l : Linked κ) (names : List String) : Prop where
  kernels : l.kernels.map (·.1) = names.eraseDups
  warnings : l.log.warnings = [] ↔ names.Nodup

theorem declare_errors {l : Linked κ} (hl : Links find? l.kernels) (d : Located String) :
    (declare find? l d).log.errors = [] ↔ l.log.errors = [] ∧ (find? d.value).isSome := by
  unfold declare
  split
  · rename_i hk
    obtain ⟨kernel, hk⟩ := Option.isSome_iff_exists.mp hk
    simp [warning, hl.found_of_lookup hk]
  · split
    · rename_i hf
      simp [hf]
    · rename_i hf
      simp [error, hf]

theorem Covers.declare {l : Linked κ} {names : List String} (h : Covers l names)
    {d : Located String} (hd : (find? d.value).isSome) :
    Covers (declare find? l d) (names ++ [d.value]) := by
  have hm : (l.kernels.lookup d.value).isSome ↔ d.value ∈ names := by
    rw [← List.mem_eraseDups, ← h.kernels, List.lookup_isSome_iff, List.mem_map]
    exact exists_congr fun entry => and_congr_right fun _ => beq_iff_eq.trans eq_comm
  unfold Linked.declare
  by_cases hn : d.value ∈ names
  · rw [if_pos (hm.mpr hn)]
    constructor
    · rw [eraseDups_append_singleton, if_pos hn]
      exact h.kernels
    · simp [warning, nodup_append_singleton, hn]
  · obtain ⟨kernel, hk⟩ := Option.isSome_iff_exists.mp hd
    rw [if_neg (mt hm.mp hn), hk]
    constructor
    · rw [eraseDups_append_singleton, if_neg hn, ← h.kernels]
      simp
    · simp [nodup_append_singleton, hn, h.warnings]

theorem foldl_declare_errors {ds : List (Located String)} {l : Linked κ}
    (hl : Links find? l.kernels) : (ds.foldl (declare find?) l).log.errors = [] ↔
      l.log.errors = [] ∧ ∀ name ∈ ds.map (·.value), (find? name).isSome := by
  induction ds generalizing l with
  | nil => simp
  | cons d rest ih =>
      rw [List.foldl_cons, ih (hl.declare d), declare_errors hl, List.map_cons,
        List.forall_mem_cons, and_assoc]

theorem Covers.foldl_declare {ds : List (Located String)} {l : Linked κ} {names : List String}
    (h : Covers l names) (hd : ∀ name ∈ ds.map (·.value), (find? name).isSome) :
    Covers (ds.foldl (Linked.declare find?) l) (names ++ ds.map (·.value)) := by
  induction ds generalizing l names with
  | nil => simpa using h
  | cons d rest ih =>
      rw [List.map_cons, List.forall_mem_cons] at hd
      simpa using ih (h.declare hd.1) hd.2

end Linked

/-- Warnings count as errors. -/
def Strict (flags : List String) : Prop :=
  "-Werror" ∈ flags ∧ "-w" ∉ flags

theorem BuildLog.applyFlags_errors {log : BuildLog} {flags : List String} :
    (log.applyFlags flags).errors = [] ↔
      log.errors = [] ∧ (Strict flags → log.warnings = []) := by
  unfold applyFlags
  by_cases he : "-Werror" ∈ flags <;> by_cases hw : "-w" ∈ flags <;> simp [Strict, he, hw]

/-- A text that can be linked, and the names that it declares. -/
structure Linkable (find? : String → Option κ) (flags : List String) (text : List Char)
    (names : List String) : Prop where
  parses : Parses text names
  declares : names ≠ []
  known : ∀ name ∈ names, (find? name).isSome
  single : Strict flags → names.Nodup

/-- What linking starts with: no names, and what is wrong with the text itself. -/
def initial (κ : Type) (text : List Char) : Linked κ :=
  { log.errors :=
      if (declared text).isEmpty && (surfaceErrors text).isEmpty then [⟨1, .noKernels⟩]
      else surfaceErrors text }

theorem initial_errors {text : List Char} :
    (initial κ text).log.errors = [] ↔ surfaceErrors text = [] ∧ declared text ≠ [] := by
  unfold initial
  by_cases hs : surfaceErrors text = [] <;> by_cases hd : declared text = [] <;> simp [hs, hd]

theorem initial_covers (text : List Char) : (initial κ text).Covers [] :=
  ⟨rfl, by simp [initial]⟩

theorem link_eq (find? : String → Option κ) (flags : List String) (text : List Char) :
    link find? flags text =
      let linked := (declared text).foldl (Linked.declare find?) (initial κ text)
      { linked with log := linked.log.applyFlags flags } :=
  rfl

/-- Linking finds nothing wrong exactly with what can be linked. -/
theorem link_errors_iff {flags : List String} {text : List Char} :
    (link find? flags text).log.errors = [] ↔ ∃ names, Linkable find? flags text names := by
  have hl : Links find? (initial κ text).kernels := .nil
  rw [link_eq, BuildLog.applyFlags_errors, Linked.foldl_declare_errors hl, initial_errors]
  constructor
  · rintro ⟨⟨⟨hs, hd⟩, hk⟩, hw⟩
    have hc := (initial_covers text).foldl_declare hk
    refine ⟨_, surface_iff.mp ⟨hs, rfl⟩, by simpa using hd, hk, fun h => ?_⟩
    exact hc.warnings.mp (hw h)
  · rintro ⟨names, hp, hd, hk, hw⟩
    obtain ⟨hs, rfl⟩ := surface_iff.mpr hp
    have hc := (initial_covers text).foldl_declare hk
    exact ⟨⟨⟨hs, by simpa using hd⟩, hk⟩, fun h => hc.warnings.mpr (hw h)⟩

theorem link_names {flags : List String} {text : List Char} {names : List String}
    (h : Linkable find? flags text names) :
    (link find? flags text).kernels.map (·.1) = names.eraseDups := by
  obtain ⟨_, rfl⟩ := surface_iff.mpr h.parses
  exact ((initial_covers text).foldl_declare h.known).kernels

/-! ## Logs -/

theorem Diagnostic.render_ne (d : Diagnostic) : d.render ≠ "" := by
  simp [Diagnostic.render]

theorem intercalate_ne {first : String} (h : first ≠ "") (rest : List String) :
    "\n".intercalate (first :: rest) ≠ "" := by
  cases rest with
  | nil => simpa using h
  | cons second rest => simp [String.intercalate_cons_cons, h]

/-- Errors leave a log. -/
theorem BuildLog.render_ne {log : BuildLog} (h : log.errors ≠ []) : log.render ≠ "" := by
  obtain ⟨d, rest, he⟩ := List.exists_cons_of_ne_nil h
  rw [render, he]
  exact intercalate_ne d.render_ne _

end Offload.Source

namespace Offload.Cpu

open Source

/-- The text can be linked in the context and declares `names`. -/
def Context.Accepts (context : Context) (options : BuildOptions) (source : String)
    (names : List String) : Prop :=
  Linkable context.registry.find? options.flags source.toList names

variable (context : Context) (device : Device) (source : String) (options : BuildOptions)

theorem build_ok_iff : (∃ p, (build context device source options).value = .ok p) ↔
    device = context.device ∧ ∃ names, context.Accepts options source names := by
  unfold Context.Accepts
  rw [← link_errors_iff]
  constructor
  · rintro ⟨p, hp⟩
    by_cases hd : device = context.device
    · refine ⟨hd, Classical.byContradiction fun he => ?_⟩
      rw [build_broken options hd he] at hp
      cases hp
    · rw [build_elsewhere options hd] at hp
      cases hp
  · rintro ⟨hd, he⟩
    exact ⟨_, build_linked options hd he⟩

theorem build_program {p : ProgramObject} {names : List String}
    (hp : (build context device source options).value = .ok p)
    (hn : context.Accepts options source names) :
    p.context = context ∧ p.options = options ∧ p.kernelNames = names.eraseDups ∧
      ∀ entry ∈ p.kernels, context.registry.find? entry.1 = some entry.2 := by
  have hd := ((build_ok_iff context device source options).mp ⟨p, hp⟩).1
  rw [build_linked options hd (link_errors_iff.mpr ⟨names, hn⟩)] at hp
  cases hp
  exact ⟨rfl, rfl, link_names hn, (linkedKernels_links context source options).found⟩

theorem build_log (hd : device = context.device)
    (hn : ¬∃ names, context.Accepts options source names) :
    ∃ log, (build context device source options).value =
      .fault ⟨.buildProgramFailure, some log⟩ ∧ log ≠ "" := by
  unfold Context.Accepts at hn
  rw [← link_errors_iff] at hn
  exact ⟨_, build_broken options hd hn, BuildLog.render_ne hn⟩

/-- What builds is what can be linked in the context, for its device. A program has the names that
its text declares, each in the place where it is first declared, and what the context offers for
them. What fails for another reason than its device fails with a log. -/
theorem builds_linkable :
    ((∃ p, (build context device source options).value = .ok p) ↔
      device = context.device ∧ ∃ names, context.Accepts options source names) ∧
    (∀ p names, (build context device source options).value = .ok p →
      context.Accepts options source names →
      p.context = context ∧ p.options = options ∧ p.kernelNames = names.eraseDups ∧
        ∀ entry ∈ p.kernels, context.registry.find? entry.1 = some entry.2) ∧
    (device ≠ context.device →
      (build context device source options).value = .fault ⟨.invalidDevice, none⟩) ∧
    (device = context.device → (¬∃ names, context.Accepts options source names) →
      ∃ log, (build context device source options).value =
        .fault ⟨.buildProgramFailure, some log⟩ ∧ log ≠ "") :=
  ⟨build_ok_iff context device source options,
    fun _ _ => build_program context device source options, build_elsewhere options,
    build_log context device source options⟩

example :
    (match (build ⟨0, {}, .ofList Builtin.all, usualCapacity⟩ {}
        "/*/ ) */ kernel void axpy_f32() // (\nkernel void fill_f32() kernel void axpy_f32()"
        { flags := ["-Werror", "-w"] }).value with
      | .ok p => some p.kernelNames
      | _ => none) = some ["axpy_f32", "fill_f32"] := by
  decide +kernel

end Offload.Cpu
