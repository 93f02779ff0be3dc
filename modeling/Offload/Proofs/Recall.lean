import Mathlib.Data.Finset.Card
import Offload.Executor
import Offload.Proofs.Counting

/-!
# What a program cache recalls

Requests to a cache, one after another, with clears in between: after any such history the cache has
exactly the programs that were built since the last clear. A request for one of them gets it without
a build, any other request is a build.
-/

namespace Offload

variable {T : Carriers}

/-! ## Histories -/

/-- What was done to a cache. -/
inductive CacheEvent (T : Carriers) where
  | answered (key : ProgramKey) (outcome : Outcome Error (Program T))
  | cleared

/-- What was done to a cache, the latest first. -/
abbrev CacheHistory (T : Carriers) : Type := List (CacheEvent T)

namespace CacheHistory

/-- The program that was built for a key since the last clear: the first that was given for it. -/
def built? : CacheHistory T → ProgramKey → Option (Program T)
  | [], _ => none
  | .cleared :: _, _ => none
  | .answered key (.ok p) :: earlier, k =>
    (built? earlier k).or (if k = key then some p else none)
  | .answered _ _ :: earlier, k => built? earlier k

/-- Keys for which programs were given since the last clear, as often as they were. -/
def builtKeys : CacheHistory T → List ProgramKey
  | [] => []
  | .cleared :: _ => []
  | .answered key (.ok _) :: earlier => key :: builtKeys earlier
  | .answered _ _ :: earlier => builtKeys earlier

theorem built?_answered {past : CacheHistory T} {key : ProgramKey} {p : Program T}
    (h : ∀ q, built? past key = some q → q = p) (k : ProgramKey) :
    built? (.answered key (.ok p) :: past) k = if k = key then some p else built? past k := by
  simp only [built?]
  by_cases hk : k = key
  · rw [if_pos hk, if_pos hk, hk]
    cases hb : built? past key with
    | none => rfl
    | some q => exact congrArg some (h q hb)
  · rw [if_neg hk, if_neg hk, Option.or_none]

theorem built?_isSome_iff (past : CacheHistory T) (k : ProgramKey) :
    (built? past k).isSome ↔ k ∈ builtKeys past := by
  induction past with
  | nil => simp [built?, builtKeys]
  | cons event earlier ih =>
      cases event with
      | cleared => simp [built?, builtKeys]
      | answered key outcome =>
          cases outcome with
          | ok p =>
              simp only [built?, builtKeys, Option.isSome_or, Bool.or_eq_true, ih, List.mem_cons]
              by_cases hk : k = key <;> simp [hk]
          | fault e => exact ih
          | unwound q => exact ih

end CacheHistory

/-! ## Requests -/

/-- The same program with one reference more. -/
@[simp]
theorem Program.clone_fst (p : Program T) (m : Machine T) : (p.clone m).1 = p := by
  simp only [clone, Reference.clone_fst]

namespace ProgramCache

variable {b : Backend T} {c : ProgramCache T} {context : T.Context} {device : T.Device}
  {name source : String} {options : BuildOptions} {m : Machine T}

theorem getOrBuild_hit {p : Program T} (h : c.find? ⟨name, options⟩ = some p) :
    c.getOrBuild b context device name source options m = (.ok (p, c), (p.clone m).2) := by
  simp only [getOrBuild, h, Program.clone_fst]

theorem getOrBuild_miss (h : c.find? ⟨name, options⟩ = none) :
    c.getOrBuild b context device name source options m =
      match Program.compile b context device name source options m with
      | (.ok p, m) => (.ok (p, c.insert ⟨name, options⟩ p), (p.clone m).2)
      | (.fault e, m) => (.fault e, m)
      | (.unwound q, m) => (.unwound q, m) := by
  simp only [getOrBuild, h]
  rcases Program.compile b context device name source options m with ⟨p | e | q, m⟩
  · simp only [Program.clone_fst]
  · rfl
  · rfl

theorem find?_insert {key : ProgramKey} (h : c.find? key = none) (p : Program T)
    (k : ProgramKey) : (c.insert key p).find? k = if k = key then some p else c.find? k := by
  rw [find?, insert, List.lookup_append, lookup_cons]
  by_cases hk : k = key
  · rw [if_pos hk, if_pos hk, hk, show c.entries.lookup key = none from h, Option.none_or]
  · rw [if_neg hk, if_neg hk, List.lookup_nil, Option.or_none]
    rfl

theorem mem_keys_iff (k : ProgramKey) : k ∈ c.entries.map (·.1) ↔ (c.find? k).isSome := by
  rw [find?, List.lookup_isSome_iff, List.mem_map]
  refine exists_congr fun entry => and_congr_right fun _ => ?_
  rw [beq_iff_eq]
  exact eq_comm

end ProgramCache

/-! ## Any use of a cache -/

/-- What can happen around a cache. -/
inductive CacheUse (T : Carriers) where
  | request (name source : String) (options : BuildOptions)
  | clear
  /-- Whatever others do to the machine. -/
  | elsewhere (change : Machine T → Machine T)

/-- A cache on its machine, and what was done to it so far. -/
structure CacheRun (T : Carriers) where
  machine : Machine T
  cache : ProgramCache T := {}
  past : CacheHistory T := []

namespace CacheRun

section Run

variable (b : Backend T) (context : T.Context) (device : T.Device)

/-- A request that fails leaves the cache as it was. -/
def step (r : CacheRun T) : CacheUse T → CacheRun T
  | .request name source options =>
    match r.cache.getOrBuild b context device name source options r.machine with
    | (.ok (p, cache), machine) =>
      ⟨machine, cache, .answered ⟨name, options⟩ (.ok p) :: r.past⟩
    | (.fault e, machine) =>
      { r with machine, past := .answered ⟨name, options⟩ (.fault e) :: r.past }
    | (.unwound q, machine) =>
      { r with machine, past := .answered ⟨name, options⟩ (.unwound q) :: r.past }
  | .clear =>
    let (cache, machine) := r.cache.clear r.machine
    ⟨machine, cache, .cleared :: r.past⟩
  | .elsewhere change => { r with machine := change r.machine }

def run (r : CacheRun T) (uses : List (CacheUse T)) : CacheRun T :=
  uses.foldl (step b context device) r

/-- A cache has the programs that were built since the last clear. -/
structure Recalls (r : CacheRun T) : Prop where
  find? : ∀ key, r.cache.find? key = CacheHistory.built? r.past key
  distinct : (r.cache.entries.map (·.1)).Nodup

/-- A request that is not a build: the program that is there gets one reference more. -/
structure Recalled (r : CacheRun T) (key : ProgramKey) (p : Program T) (next : CacheRun T) :
    Prop where
  past : next.past = .answered key (.ok p) :: r.past
  cache : next.cache = r.cache
  machine : next.machine = (p.clone r.machine).2

/-- A request that is a build. The cache gets the key if the build succeeds, and a reference of its
own. -/
structure Built (r : CacheRun T) (name source : String) (options : BuildOptions)
    (next : CacheRun T) : Prop where
  past : next.past = .answered ⟨name, options⟩
    (Program.compile b context device name source options r.machine).1 :: r.past
  kept : ∀ p m, Program.compile b context device name source options r.machine = (.ok p, m) →
    next.machine = (p.clone m).2 ∧
    ∀ k, next.cache.find? k = if k = ⟨name, options⟩ then some p else r.cache.find? k
  failed : (∀ p, (Program.compile b context device name source options r.machine).1 ≠ .ok p) →
    next.machine = (Program.compile b context device name source options r.machine).2 ∧
    next.cache = r.cache

end Run

variable {b : Backend T} {context : T.Context} {device : T.Device} {r : CacheRun T}

theorem step_hit {name : String} {options : BuildOptions} {p : Program T} (source : String)
    (h : r.cache.find? ⟨name, options⟩ = some p) :
    r.step b context device (.request name source options) =
      ⟨(p.clone r.machine).2, r.cache, .answered ⟨name, options⟩ (.ok p) :: r.past⟩ := by
  simp only [step, ProgramCache.getOrBuild_hit h]

theorem step_miss {name : String} {options : BuildOptions} (source : String)
    (h : r.cache.find? ⟨name, options⟩ = none) :
    r.step b context device (.request name source options) =
      match Program.compile b context device name source options r.machine with
      | (.ok p, m) =>
        ⟨(p.clone m).2, r.cache.insert ⟨name, options⟩ p,
          .answered ⟨name, options⟩ (.ok p) :: r.past⟩
      | (.fault e, m) => ⟨m, r.cache, .answered ⟨name, options⟩ (.fault e) :: r.past⟩
      | (.unwound q, m) => ⟨m, r.cache, .answered ⟨name, options⟩ (.unwound q) :: r.past⟩ := by
  simp only [step, ProgramCache.getOrBuild_miss h]
  rcases Program.compile b context device name source options r.machine with ⟨_ | _ | _, m⟩ <;> rfl

theorem step_recalled {name : String} {options : BuildOptions} {p : Program T} (source : String)
    (h : r.cache.find? ⟨name, options⟩ = some p) :
    Recalled r ⟨name, options⟩ p (r.step b context device (.request name source options)) := by
  rw [step_hit source h]
  exact ⟨rfl, rfl, rfl⟩

theorem step_built {name : String} {options : BuildOptions} (source : String)
    (h : r.cache.find? ⟨name, options⟩ = none) :
    Built b context device r name source options
      (r.step b context device (.request name source options)) := by
  rw [step_miss source h]
  cases hc : Program.compile b context device name source options r.machine with
  | mk outcome m =>
      cases outcome with
      | ok p =>
          refine ⟨by rw [hc], fun p' m' h' => ?_, fun hn => absurd (by rw [hc]) (hn p)⟩
          cases hc.symm.trans h'
          exact ⟨rfl, ProgramCache.find?_insert h p⟩
      | fault e =>
          refine ⟨by rw [hc], fun p' m' h' => ?_, fun _ => ⟨by rw [hc], rfl⟩⟩
          cases hc.symm.trans h'
      | unwound q =>
          refine ⟨by rw [hc], fun p' m' h' => ?_, fun _ => ⟨by rw [hc], rfl⟩⟩
          cases hc.symm.trans h'

/-! ## One step, any steps -/

theorem recalls_start (m : Machine T) : Recalls { machine := m } where
  find? _ := rfl
  distinct := .nil

theorem Recalls.step (h : Recalls r) (use : CacheUse T) :
    Recalls (r.step b context device use) := by
  cases use with
  | elsewhere change => exact ⟨h.find?, h.distinct⟩
  | clear => exact ⟨fun _ => rfl, .nil⟩
  | request name source options =>
      cases hf : r.cache.find? ⟨name, options⟩ with
      | some p =>
          have hb : CacheHistory.built? r.past ⟨name, options⟩ = some p := (h.find? _).symm.trans hf
          rw [step_hit source hf]
          refine ⟨fun k => ?_, h.distinct⟩
          -- What is given now was given before.
          rw [CacheHistory.built?_answered (fun q hq => Option.some.inj (hq.symm.trans hb))]
          split
          · next hk => rw [hk, hf]
          · exact h.find? k
      | none =>
          have hb : CacheHistory.built? r.past ⟨name, options⟩ = none := (h.find? _).symm.trans hf
          rw [step_miss source hf]
          rcases Program.compile b context device name source options r.machine with
            ⟨p | e | q, m⟩
          · refine ⟨fun k => ?_, ?_⟩
            · rw [ProgramCache.find?_insert hf, h.find?,
                CacheHistory.built?_answered (fun q hq => nomatch hb.symm.trans hq)]
            · have hn : (⟨name, options⟩ : ProgramKey) ∉ r.cache.entries.map (·.1) := by
                rw [ProgramCache.mem_keys_iff, hf]
                exact Bool.false_ne_true
              simp only [ProgramCache.insert, List.map_append, List.map_cons, List.map_nil]
              exact List.nodup_append_comm.mpr (List.nodup_cons.mpr ⟨hn, h.distinct⟩)
          · exact ⟨h.find?, h.distinct⟩
          · exact ⟨h.find?, h.distinct⟩

theorem Recalls.run (uses : List (CacheUse T)) (h : Recalls r) :
    Recalls (r.run b context device uses) := by
  induction uses generalizing r with
  | nil => exact h
  | cons use rest ih => exact ih (h.step use)

theorem Recalls.size_eq (h : Recalls r) :
    r.cache.size = (CacheHistory.builtKeys r.past).toFinset.card := by
  have hk : (r.cache.entries.map (·.1)).toFinset = (CacheHistory.builtKeys r.past).toFinset := by
    ext k
    rw [List.mem_toFinset, List.mem_toFinset, ProgramCache.mem_keys_iff, h.find?,
      CacheHistory.built?_isSome_iff]
  rw [← hk, List.toFinset_card_of_nodup h.distinct, List.length_map]
  rfl

/-- After any history a request for a key that was built since the last clear gets the program that
was built then, whatever its source text, and any other request is a build of its own text. The cache
has one entry for each key that was built, and keys agree in the name and in all of the options. -/
theorem requests_recalled (b : Backend T) (context : T.Context) (device : T.Device) (m : Machine T)
    (uses : List (CacheUse T)) :
    let r := run b context device { machine := m } uses
    (∀ name source options,
      let next := r.step b context device (.request name source options)
      (∀ p, r.past.built? ⟨name, options⟩ = some p → Recalled r ⟨name, options⟩ p next) ∧
      (r.past.built? ⟨name, options⟩ = none →
        Built b context device r name source options next)) ∧
    (∀ key, (r.cache.find? key).isSome ↔ key ∈ r.past.builtKeys) ∧
    r.cache.size = r.past.builtKeys.toFinset.card ∧
    ∀ k l : ProgramKey, k = l ↔ k.name = l.name ∧ k.options.defines = l.options.defines ∧
      k.options.flags = l.options.flags ∧ k.options.fastPath = l.options.fastPath ∧
      k.options.verbose = l.options.verbose := by
  intro r
  have h : Recalls r := (recalls_start m).run uses
  refine ⟨fun name source options => ⟨fun p hp => ?_, fun hn => ?_⟩, fun key => ?_, h.size_eq,
    fun k l => ?_⟩
  · exact step_recalled source ((h.find? _).trans hp)
  · exact step_built source ((h.find? _).trans hn)
  · rw [h.find?]
    exact CacheHistory.built?_isSome_iff r.past key
  · constructor
    · rintro rfl
      exact ⟨rfl, rfl, rfl, rfl, rfl⟩
    · obtain ⟨name, defines, flags, fastPath, verbose⟩ := k
      obtain ⟨name', defines', flags', fastPath', verbose'⟩ := l
      rintro ⟨hn, hd, hf, hp, hv⟩
      simp only at hn hd hf hp hv
      rw [hn, hd, hf, hp, hv]

end CacheRun

end Offload
