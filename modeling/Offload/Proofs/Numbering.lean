import Mathlib.Data.List.Basic
import Offload.Argument
import Offload.Gpu.Limits
import Offload.Gpu.Program
import Offload.Proofs.Lists

/-!
# Numbers of bindings

The bindings of a shader are taken in the order of their numbers. That is their order as arguments
if the numbers are those from zero on, each used once. Otherwise a number is called missing, which
need not be so: behind a number that is used twice, one that is used can be called missing as well.
-/

namespace Offload.Gpu

/-! ## Numbers in order -/

/-- `first` is the first number that is not used exactly once. -/
structure FirstMisused (numbers : List Nat) (first : Nat) : Prop where
  before : ∀ k < first, numbers.count k = 1
  misused : numbers.count first ≠ 1

theorem FirstMisused.congr {numbers others : List Nat} {first : Nat} (h : FirstMisused numbers first)
    (hc : ∀ k, numbers.count k = others.count k) : FirstMisused others first :=
  ⟨fun k hk => hc k ▸ h.before k hk, hc first ▸ h.misused⟩

namespace Interface

section Gap

variable {numbers : List Nat} {next place first : Nat}

theorem gap?_eq_none_iff :
    gap? next numbers = none ↔ numbers = List.range' next numbers.length := by
  induction numbers generalizing next with
  | nil => exact iff_of_true rfl rfl
  | cons number rest ih =>
      rw [gap?, List.length_cons, List.range'_succ, List.cons.injEq]
      split
      · next h => rw [ih, and_iff_right h]
      · next h => exact iff_of_false (fun hn => nomatch hn) fun hc => h hc.1

/-- Up to a gap the numbers go on one by one; the next one does not. -/
theorem exists_of_gap? (h : gap? next numbers = some place) :
    ∃ number rest, numbers = List.range' next (place - next) ++ number :: rest ∧
      next ≤ place ∧ number ≠ place := by
  induction numbers generalizing next with
  | nil => cases h
  | cons number rest ih =>
      rw [gap?] at h
      split at h
      · next hn =>
          obtain ⟨number', rest', rfl, hle, hne⟩ := ih h
          refine ⟨number', rest', ?_, Nat.le_of_succ_le hle, hne⟩
          rw [show place - next = place - (next + 1) + 1 by omega, List.range'_succ, hn]
          rfl
      · next hn =>
          obtain rfl := Option.some.inj h
          exact ⟨number, rest, by simp, Nat.le_refl _, hn⟩

/-- In numbers that are sorted, a gap is at the first number that is misused if that is not used, and
behind it otherwise. -/
theorem firstMisused_of_gap? (sorted : numbers.Pairwise (· ≤ ·)) (h : gap? 0 numbers = some place) :
    ∃ first, FirstMisused numbers first ∧
      place = if first ∈ numbers then first + 1 else first := by
  obtain ⟨number, rest, rfl, -, hne⟩ := exists_of_gap? h
  rw [Nat.sub_zero, ← List.range_eq_range'] at sorted ⊢
  obtain ⟨-, tail, across⟩ := List.pairwise_append.mp sorted
  have rest_le : ∀ x ∈ rest, number ≤ x := (List.pairwise_cons.mp tail).1
  have count_lt {k : Nat} (hk : k < number) :
      (List.range place ++ number :: rest).count k = if k < place then 1 else 0 := by
    have hr : k ∉ rest := fun hm => Nat.not_le.mpr hk (rest_le k hm)
    rw [List.count_append, List.count_range, List.count_cons_of_ne (Nat.ne_of_gt hk),
      List.count_eq_zero_of_not_mem hr, Nat.add_zero]
  rcases Nat.lt_or_gt_of_ne hne with hlt | hgt
  · -- The number before the gap is there once more.
    have hp : number + 1 = place := by
      have := across (place - 1) (List.mem_range.mpr (by omega)) number List.mem_cons_self
      omega
    refine ⟨number, ⟨fun k hk => ?_, ?_⟩, ?_⟩
    · rw [count_lt hk, if_pos (Nat.lt_trans hk hlt)]
    · rw [List.count_append, List.count_range, if_pos hlt, List.count_cons_self]
      omega
    · rw [if_pos (List.mem_append_right _ List.mem_cons_self), hp]
  · -- The numbers pass the gap over.
    have hcount := count_lt hgt
    rw [if_neg (Nat.lt_irrefl place)] at hcount
    refine ⟨place, ⟨fun k hk => ?_, ?_⟩, ?_⟩
    · rw [count_lt (Nat.lt_trans hk hgt), if_pos hk]
    · omega
    · rw [if_neg (List.count_eq_zero.mp hcount)]

end Gap

/-! ## Kinds by their numbers -/

variable {bound : List (Nat × BindingKind)} {kinds : List BindingKind}

def inOrder (bound : List (Nat × BindingKind)) : List (Nat × BindingKind) :=
  bound.mergeSort fun a b => a.1 ≤ b.1

theorem inOrder_perm (bound : List (Nat × BindingKind)) : (inOrder bound).Perm bound :=
  List.mergeSort_perm _ _

theorem inOrder_sorted (bound : List (Nat × BindingKind)) :
    ((inOrder bound).map (·.1)).Pairwise (· ≤ ·) :=
  List.pairwise_map.mpr (mergeSort_sorted (·.1) bound)

theorem numbers_inOrder_iff :
    (inOrder bound).map (·.1) = List.range bound.length ↔
      (bound.map (·.1)).Perm (List.range bound.length) := by
  have hp := (inOrder_perm bound).map (·.1)
  refine ⟨fun h => h ▸ hp.symm, fun h => ?_⟩
  exact List.Perm.eq_of_pairwise (fun _ _ _ _ => Nat.le_antisymm) (inOrder_sorted bound)
    List.pairwise_le_range (hp.trans h)

/-- The numbers are the first ones, each used once, if and only if they have no gap in order. -/
theorem gap?_inOrder_eq_none_iff :
    gap? 0 ((inOrder bound).map (·.1)) = none ↔
      (bound.map (·.1)).Perm (List.range bound.length) := by
  rw [gap?_eq_none_iff, List.length_map, (inOrder_perm bound).length_eq, ← List.range_eq_range',
    numbers_inOrder_iff]

theorem number_eq (bound : List (Nat × BindingKind)) :
    number bound =
      match gap? 0 ((inOrder bound).map (·.1)) with
      | some place => .error (.missingBinding bound.length place)
      | none => .ok ((inOrder bound).map (·.2)) :=
  rfl

theorem number_eq_ok (h : (bound.map (·.1)).Perm (List.range bound.length)) :
    number bound = .ok ((inOrder bound).map (·.2)) := by
  rw [number_eq, gap?_inOrder_eq_none_iff.mpr h]

theorem number_eq_error (h : ¬ (bound.map (·.1)).Perm (List.range bound.length)) :
    ∃ first, FirstMisused (bound.map (·.1)) first ∧
      number bound = .error (.missingBinding bound.length
        (if first ∈ bound.map (·.1) then first + 1 else first)) := by
  cases hg : gap? 0 ((inOrder bound).map (·.1)) with
  | none => exact absurd (gap?_inOrder_eq_none_iff.mp hg) h
  | some place =>
      have hp := (inOrder_perm bound).map (·.1)
      obtain ⟨first, hf, rfl⟩ := firstMisused_of_gap? (inOrder_sorted bound) hg
      refine ⟨first, hf.congr fun k => hp.count_eq k, ?_⟩
      simp only [hp.mem_iff] at hg
      rw [number_eq, hg]

theorem getElem?_inOrder_iff (h : (bound.map (·.1)).Perm (List.range bound.length)) (i : Nat)
    (kind : BindingKind) :
    ((inOrder bound).map (·.2))[i]? = some kind ↔ (i, kind) ∈ bound := by
  have numbered {j : Nat} {entry : Nat × BindingKind} (hj : (inOrder bound)[j]? = some entry) :
      entry.1 = j := by
    have hm : ((inOrder bound).map (·.1))[j]? = some entry.1 := by rw [List.getElem?_map, hj]; rfl
    rw [numbers_inOrder_iff.mpr h] at hm
    obtain ⟨hj, hn⟩ := List.getElem?_eq_some_iff.mp hm
    rw [← hn, List.getElem_range]
  rw [← (inOrder_perm bound).mem_iff, List.mem_iff_getElem?, List.getElem?_map,
    Option.map_eq_some_iff]
  constructor
  · rintro ⟨entry, hi, rfl⟩
    obtain rfl := numbered hi
    exact ⟨entry.1, hi⟩
  · rintro ⟨j, hj⟩
    obtain rfl : i = j := numbered hj
    exact ⟨(i, kind), hj, rfl⟩

/-! ## Bound variables -/

def numbers (m : Shader.Module) : List Nat :=
  m.globals.filterMap fun v => v.binding?.map (·.2)

/-- All variables that are bound are buffers in the group there is. -/
def BindsBuffers (m : Shader.Module) : Prop :=
  ∀ v ∈ m.globals, ∀ binding ∈ v.binding?,
    binding.1 = 0 ∧ (BindingKind.ofSpace? v.space).isSome = true

instance (m : Shader.Module) : Decidable (BindsBuffers m) :=
  inferInstanceAs (Decidable (∀ v ∈ m.globals, ∀ binding ∈ v.binding?,
    binding.1 = 0 ∧ (BindingKind.ofSpace? v.space).isSome = true))

/-- A variable of this kind is bound with this number. -/
def Declares (m : Shader.Module) (number : Nat) (kind : BindingKind) : Prop :=
  ∃ v ∈ m.globals, v.binding? = some (0, number) ∧ BindingKind.ofSpace? v.space = some kind

def declared? (v : Shader.Variable) : Option (Nat × BindingKind) :=
  match v.binding?, BindingKind.ofSpace? v.space with
  | some (_, number), some kind => some (number, kind)
  | _, _ => none

variable {m : Shader.Module}

theorem boundKind?_eq {v : Shader.Variable} (h : ∀ binding ∈ v.binding?,
    binding.1 = 0 ∧ (BindingKind.ofSpace? v.space).isSome = true) :
    boundKind? v = .ok (declared? v) := by
  unfold boundKind? declared?
  cases hb : v.binding? with
  | none => rfl
  | some binding =>
      obtain ⟨group, number⟩ := binding
      obtain ⟨rfl, hk⟩ := h (group, number) hb
      obtain ⟨kind, hk⟩ := Option.isSome_iff_exists.mp hk
      rw [hk]
      rfl

theorem map_declared? (h : BindsBuffers m) :
    (m.globals.filterMap declared?).map (·.1) = numbers m := by
  rw [List.map_filterMap, numbers]
  refine List.filterMap_congr fun v hv => ?_
  unfold declared?
  cases hb : v.binding? with
  | none => rfl
  | some binding =>
      obtain ⟨kind, hk⟩ := Option.isSome_iff_exists.mp (h v hv binding hb).2
      rw [hk]
      rfl

theorem mem_declared?_iff (h : BindsBuffers m) (i : Nat) (kind : BindingKind) :
    (i, kind) ∈ m.globals.filterMap declared? ↔ Declares m i kind := by
  rw [List.mem_filterMap, Declares]
  refine exists_congr fun v => and_congr_right fun hv => ?_
  unfold declared?
  cases hb : v.binding? with
  | none => simp
  | some binding =>
      obtain ⟨group, number⟩ := binding
      obtain ⟨rfl, -⟩ := h v hv (group, number) hb
      cases BindingKind.ofSpace? v.space <;> simp

theorem ofModule_eq (h : BindsBuffers m) :
    ofModule m = (number (m.globals.filterMap declared?)).bind fun kinds =>
      if m.kernels.isEmpty then .error .noEntryPoint else .ok ⟨kinds, m.kernels⟩ := by
  rw [ofModule, mapM_eq_ok fun v hv => boundKind?_eq (h v hv)]
  show (number ((m.globals.map declared?).filterMap id)).bind _ = _
  rw [List.filterMap_map, Function.id_comp]
  refine congrArg _ (funext fun kinds => ?_)
  cases m.kernels.isEmpty <;> rfl

theorem ofModule_of_perm (h : BindsBuffers m)
    (hp : (numbers m).Perm (List.range (numbers m).length)) :
    ∃ kinds, kinds.length = (numbers m).length ∧
      (∀ i kind, kinds[i]? = some kind ↔ Declares m i kind) ∧
      ofModule m =
        if m.kernels.isEmpty then .error .noEntryPoint else .ok ⟨kinds, m.kernels⟩ := by
  rw [← map_declared? h, List.length_map] at hp ⊢
  refine ⟨(inOrder (m.globals.filterMap declared?)).map (·.2), ?_, fun i kind => ?_, ?_⟩
  · exact (List.length_map _).trans (inOrder_perm _).length_eq
  · exact (getElem?_inOrder_iff hp i kind).trans (mem_declared?_iff h i kind)
  · rw [ofModule_eq h, number_eq_ok hp]
    rfl

theorem ofModule_of_not_perm (h : BindsBuffers m)
    (hp : ¬ (numbers m).Perm (List.range (numbers m).length)) :
    ∃ first, FirstMisused (numbers m) first ∧
      ofModule m = .error (.missingBinding (numbers m).length
        (if first ∈ numbers m then first + 1 else first)) := by
  rw [← map_declared? h, List.length_map] at hp ⊢
  obtain ⟨first, hf, hn⟩ := number_eq_error hp
  refine ⟨first, hf, ?_⟩
  rw [ofModule_eq h, hn]
  rfl

end Interface

/-! ## Shaders -/

section Shader

open Interface

/-- The bindings of a shader are in order, without a number that is called missing, if and only if
their numbers are those from zero on, each used once. Then the argument of each place meets the
variable of that number. Otherwise the number called missing is the first one that is misused or, if
that is used, the one behind it; so it is really missing unless a number that is used comes behind the
first one that is used again. -/
theorem numbered_iff {m : Shader.Module} (buffers : BindsBuffers m) :
    ((∀ count place, ofModule m ≠ .error (.missingBinding count place)) ↔
      (numbers m).Perm (List.range (numbers m).length)) ∧
    ((numbers m).Perm (List.range (numbers m).length) →
      ∃ kinds : List BindingKind, kinds.length = (numbers m).length ∧
        (∀ i kind, kinds[i]? = some kind ↔ Declares m i kind) ∧
        (∀ (arguments : List BoundArgument) i x kind,
          (arguments.zip kinds)[i]? = some (x, kind) ↔
            arguments[i]? = some x ∧ Declares m i kind) ∧
        ofModule m =
          if m.kernels.isEmpty then .error .noEntryPoint else .ok ⟨kinds, m.kernels⟩) ∧
    ∀ count place, ofModule m = .error (.missingBinding count place) →
      count = (numbers m).length ∧
        ∃ first, FirstMisused (numbers m) first ∧
          place = (if first ∈ numbers m then first + 1 else first) ∧
          (place ∉ numbers m ↔ ¬ (first ∈ numbers m ∧ first + 1 ∈ numbers m)) := by
  by_cases hp : (numbers m).Perm (List.range (numbers m).length)
  · obtain ⟨kinds, hl, hk, ho⟩ := ofModule_of_perm buffers hp
    have hne (count place : Nat) : ofModule m ≠ .error (.missingBinding count place) := by
      rw [ho]
      split <;> simp
    refine ⟨iff_of_true hne hp, fun _ => ⟨kinds, hl, hk, fun arguments i x kind => ?_, ho⟩,
      fun count place h => absurd h (hne count place)⟩
    rw [List.getElem?_zip_eq_some, hk]
  · obtain ⟨first, hf, ho⟩ := ofModule_of_not_perm buffers hp
    refine ⟨iff_of_false (fun h => h _ _ ho) hp, fun h => absurd h hp, fun count place h => ?_⟩
    cases ho.symm.trans h
    refine ⟨rfl, first, hf, rfl, ?_⟩
    split
    · next hm => rw [and_iff_right hm]
    · next hm => exact iff_of_true hm fun h => hm h.1

/-- Two variables that are declared the other way round. -/
def exchanged : Shader.Module where
  globals := [⟨some "a", .storage false, some (0, 1)⟩, ⟨some "b", .uniform, some (0, 0)⟩]
  entryPoints := [⟨"m", .ofList [1], true⟩]

theorem numbered_iff_exchanged :
    let source := "@group(0)@binding(1)var<storage>a:u32;@group(0)@binding(0)var<uniform>b:u32;" ++
      "@compute@workgroup_size(1)fn m()\x7b\x7d"
    let p := Platform.knowing [(source, exchanged)]
    p.parse source = .ok exchanged ∧ BindsBuffers exchanged ∧ numbers exchanged = [1, 0] ∧
      ∃ shader, p.analyze source = .ok shader ∧ shader.bindings = [.uniform, .storage true] := by
  intro source p
  have parsed : p.parse source = .ok exchanged :=
    Platform.parse_knowing (by decide) (by decide)
  have buffers : BindsBuffers exchanged := by decide
  obtain ⟨kinds, hl, hk, -, ho⟩ := (numbered_iff buffers).2.1 (by decide)
  have first : kinds[0]? = some .uniform :=
    (hk 0 .uniform).mpr ⟨⟨some "b", .uniform, some (0, 0)⟩, by simp [exchanged], rfl, rfl⟩
  have second : kinds[1]? = some (.storage true) :=
    (hk 1 (.storage true)).mpr
      ⟨⟨some "a", .storage false, some (0, 1)⟩, by simp [exchanged], rfl, rfl⟩
  refine ⟨parsed, buffers, rfl, ⟨kinds, exchanged.kernels⟩, ?_, ?_⟩
  · rw [p.analyze_of_parsed parsed, ho]
    rfl
  · match kinds, hl, first, second with
    | [x, y], _, first, second => rw [Option.some.inj first, Option.some.inj second]

/-- A number that is used twice, and the one behind it. -/
def repeatedFirst : Shader.Module where
  globals := [⟨some "a", .storage false, some (0, 0)⟩, ⟨some "b", .storage false, some (0, 0)⟩,
    ⟨some "c", .storage false, some (0, 1)⟩]
  entryPoints := [⟨"m", .ofList [1], true⟩]

/-- A number that is used after one that is used twice is called missing. -/
theorem used_number_called_missing :
    let source := "@group(0)@binding(0)var<storage>a:u32;@group(0)@binding(0)var<storage>b:u32;" ++
      "@group(0)@binding(1)var<storage>c:u32;@compute@workgroup_size(1)fn m()\x7b\x7d"
    let p := Platform.knowing [(source, repeatedFirst)]
    p.parse source = .ok repeatedFirst ∧ BindsBuffers repeatedFirst ∧
      numbers repeatedFirst = [0, 0, 1] ∧
      p.analyze source = .error (.interface (.missingBinding 3 1)) := by
  intro source p
  have parsed : p.parse source = .ok repeatedFirst :=
    Platform.parse_knowing (by decide) (by decide)
  have buffers : BindsBuffers repeatedFirst := by decide
  have sorted : inOrder (repeatedFirst.globals.filterMap declared?) =
      repeatedFirst.globals.filterMap declared? :=
    List.mergeSort_of_pairwise (by decide)
  refine ⟨parsed, buffers, rfl, ?_⟩
  rw [p.analyze_of_parsed parsed, ofModule_eq buffers, number_eq, sorted]
  rfl

end Shader

end Offload.Gpu
