import Mathlib.Data.Nat.Find
import Offload.Gpu.Backend
import Offload.Gpu.Limits
import Offload.Proofs.Coverage

/-!
# Launches that are refused

A launch on a GPU device is checked before anything of it is handed to the device: its size, then
the number of its arguments, then each argument against its binding. The first thing that is wrong
is what the fault tells.
-/

namespace Offload.Gpu

/-- What is wrong with argument `index` for a binding of this kind. -/
inductive Unsuited (index : Nat) (kind : BindingKind) : BoundArgument → Fault → Prop where
  | readOnly {handle type} (writable : kind.isWritable = true) :
      Unsuited index kind (.buffer handle type .read) (.accessMismatch index)
  | constant {value} (writable : kind.isWritable = true) :
      Unsuited index kind (.scalar value) (.accessMismatch index)
  | wide {value} (fixed : kind.isWritable = false) (size : value.type.size = 8) :
      Unsuited index kind (.scalar value) (.unsupportedScalar index value.type)

/-- Argument `index` does not suit the binding of that number. -/
def RefusedAt (bindings : List BindingKind) (arguments : List BoundArgument) (index : Nat)
    (f : Fault) : Prop :=
  ∃ kind x, bindings[index]? = some kind ∧ arguments[index]? = some x ∧ Unsuited index kind x f

/-- Why a launch is refused. Of several reasons the first in this order counts, and of several
arguments the first one. -/
inductive RefusesLaunch (limit : Nat) (e : Executable) (shape : LaunchShape)
    (arguments : List BoundArgument) : Fault → Prop where
  | size {f} (rejected : dispatchSize e.workgroup shape limit = .fault f) :
      RefusesLaunch limit e shape arguments f
  | count {groups} (sized : dispatchSize e.workgroup shape limit = .ok groups)
      (differs : arguments.length ≠ e.bindings.length) :
      RefusesLaunch limit e shape arguments (.argumentCount e.bindings.length arguments.length)
  | argument {groups index f}
      (sized : dispatchSize e.workgroup shape limit = .ok groups)
      (same : arguments.length = e.bindings.length)
      (refused : RefusedAt e.bindings arguments index f)
      (first : ∀ lower < index, ∀ g, ¬ RefusedAt e.bindings arguments lower g) :
      RefusesLaunch limit e shape arguments f

/-! ## One argument -/

section Argument

variable {index : Nat} {kind : BindingKind} {x : BoundArgument} {f : Fault}

theorem isBindable_iff {t : ElementType} : isBindable t = true ↔ t.size ≠ 8 := by
  cases t <;> decide

theorem unsuited_buffer_iff {handle : Handle} {type : ElementType} {access : Access} :
    Unsuited index kind (.buffer handle type access) f ↔
      (kind.isWritable = true ∧ access.writes = false) ∧ f = .accessMismatch index := by
  constructor
  · intro h
    cases h with
    | readOnly writable => exact ⟨⟨writable, rfl⟩, rfl⟩
  · rintro ⟨⟨writable, ha⟩, rfl⟩
    cases access with
    | read => exact .readOnly writable
    | write => cases ha
    | readWrite => cases ha

theorem unsuited_scalar_iff {value : Scalar} :
    Unsuited index kind (.scalar value) f ↔
      (kind.isWritable = true ∧ f = .accessMismatch index) ∨
        kind.isWritable = false ∧ value.type.size = 8 ∧
          f = .unsupportedScalar index value.type := by
  constructor
  · intro h
    cases h with
    | constant writable => exact .inl ⟨writable, rfl⟩
    | wide fixed size => exact .inr ⟨fixed, size, rfl⟩
  · rintro (⟨writable, rfl⟩ | ⟨fixed, size, rfl⟩)
    · exact .constant writable
    · exact .wide fixed size

/-- An argument is refused exactly for what is wrong with it. -/
theorem checkArgument_eq_error_iff :
    checkArgument index kind x = .error f ↔ Unsuited index kind x f := by
  cases x with
  | buffer handle type access =>
      rw [unsuited_buffer_iff]
      cases hk : kind.isWritable <;> cases ha : access.writes <;>
        simp [checkArgument, hk, ha, eq_comm]
  | scalar value =>
      rw [unsuited_scalar_iff]
      have hb := @isBindable_iff value.type
      cases hk : kind.isWritable with
      | true => simp [checkArgument, hk, eq_comm]
      | false =>
          by_cases hs : value.type.size = 8
          · simp [checkArgument, hk, hb, hs, eq_comm]
          · simp [checkArgument, hk, hb, hs]

theorem checkArgument_eq_ok_iff :
    checkArgument index kind x = .ok () ↔ ∀ g, ¬ Unsuited index kind x g := by
  simp only [← checkArgument_eq_error_iff]
  cases checkArgument index kind x with
  | ok u => simp
  | error g => simp

end Argument

/-! ## All arguments -/

section Arguments

variable {n index : Nat} {bound : List (BoundArgument × BindingKind)}
  {bindings : List BindingKind} {arguments : List BoundArgument} {f : Fault}

/-- The same for arguments that are paired with their bindings, the first one having number `n`. -/
def PairRefused (n : Nat) (bound : List (BoundArgument × BindingKind)) (place : Nat) (f : Fault) :
    Prop :=
  ∃ x kind, bound[place]? = some (x, kind) ∧ Unsuited (n + place) kind x f

theorem pairRefused_cons_zero {x : BoundArgument} {kind : BindingKind} :
    PairRefused n ((x, kind) :: bound) 0 f ↔ Unsuited n kind x f := by
  constructor
  · rintro ⟨_, _, he, hu⟩
    cases he
    exact hu
  · exact fun hu => ⟨x, kind, rfl, hu⟩

theorem pairRefused_cons_succ {entry : BoundArgument × BindingKind} {place : Nat} :
    PairRefused n (entry :: bound) (place + 1) f ↔ PairRefused (n + 1) bound place f := by
  have hn : n + (place + 1) = n + 1 + place := by omega
  simp only [PairRefused, List.getElem?_cons_succ, hn]

/-- What is reported is the first argument that is refused. -/
theorem checkArguments_eq_error_iff :
    checkArguments n bound = .error f ↔ ∃ place, PairRefused n bound place f ∧
      ∀ lower < place, ∀ g, ¬ PairRefused n bound lower g := by
  induction bound generalizing n with
  | nil => simp [checkArguments, PairRefused]
  | cons entry rest ih =>
      obtain ⟨x, kind⟩ := entry
      cases hx : checkArgument n kind x with
      | error g =>
          have hu : Unsuited n kind x g := checkArgument_eq_error_iff.mp hx
          have he : checkArguments n ((x, kind) :: rest) = .error g := by
            rw [checkArguments, hx]
            rfl
          rw [he]
          constructor
          · intro h
            cases h
            exact ⟨0, pairRefused_cons_zero.mpr hu,
              fun lower hl => absurd hl (Nat.not_lt_zero lower)⟩
          · rintro ⟨place, hp, first⟩
            cases place with
            | zero =>
                have hf := checkArgument_eq_error_iff.mpr (pairRefused_cons_zero.mp hp)
                exact hx.symm.trans hf
            | succ place =>
                exact absurd (pairRefused_cons_zero.mpr hu) (first 0 (Nat.succ_pos place) g)
      | ok u =>
          have hn : ∀ g, ¬ Unsuited n kind x g := checkArgument_eq_ok_iff.mp hx
          have he : checkArguments n ((x, kind) :: rest) = checkArguments (n + 1) rest := by
            rw [checkArguments, hx]
            rfl
          rw [he, ih]
          constructor
          · rintro ⟨place, hp, first⟩
            refine ⟨place + 1, pairRefused_cons_succ.mpr hp, fun lower hl g => ?_⟩
            cases lower with
            | zero => exact mt pairRefused_cons_zero.mp (hn g)
            | succ lower =>
                exact mt pairRefused_cons_succ.mp (first lower (Nat.lt_of_succ_lt_succ hl) g)
          · rintro ⟨place, hp, first⟩
            cases place with
            | zero => exact absurd (pairRefused_cons_zero.mp hp) (hn f)
            | succ place =>
                refine ⟨place, pairRefused_cons_succ.mp hp, fun lower hl g => ?_⟩
                exact mt pairRefused_cons_succ.mpr (first (lower + 1) (Nat.succ_lt_succ hl) g)

theorem pairRefused_zip_iff :
    PairRefused 0 (arguments.zip bindings) index f ↔ RefusedAt bindings arguments index f := by
  simp only [PairRefused, RefusedAt, List.getElem?_zip_eq_some, Nat.zero_add]
  constructor
  · rintro ⟨x, kind, ⟨hx, hk⟩, hu⟩
    exact ⟨kind, x, hk, hx, hu⟩
  · rintro ⟨kind, x, hk, hx, hu⟩
    exact ⟨x, kind, ⟨hx, hk⟩, hu⟩

/-- A list of arguments is refused if one of them is. -/
theorem exists_checkArguments_error_iff :
    (∃ f, checkArguments 0 (arguments.zip bindings) = .error f) ↔
      ∃ index f, RefusedAt bindings arguments index f := by
  simp only [checkArguments_eq_error_iff, pairRefused_zip_iff]
  constructor
  · rintro ⟨f, index, refused, -⟩
    exact ⟨index, f, refused⟩
  · intro h
    classical
    obtain ⟨f, refused⟩ := Nat.find_spec h
    exact ⟨f, _, refused, fun lower hl g hg => Nat.find_min h hl ⟨g, hg⟩⟩

end Arguments

/-! ## Launches -/

section Launches

variable {p : Platform} {limit : Nat} {e : Executable} {shape : LaunchShape}
  {arguments : List BoundArgument} {f : Fault}

theorem checkLaunch_eq_fault_iff :
    checkLaunch limit e shape arguments = .fault f ↔ RefusesLaunch limit e shape arguments f := by
  simp only [checkLaunch, Outcome.bind_eq_fault_iff]
  constructor
  · rintro (rejected | ⟨groups, sized, h⟩)
    · exact .size rejected
    · split at h
      · next differs =>
          cases h
          exact .count sized differs
      · next same =>
          have same : arguments.length = e.bindings.length := Decidable.not_not.mp same
          cases hc : checkArguments 0 (arguments.zip e.bindings) with
          | ok u => rw [hc] at h; cases h
          | error g =>
              rw [hc] at h
              cases h
              obtain ⟨index, refused, first⟩ := checkArguments_eq_error_iff.mp hc
              simp only [pairRefused_zip_iff] at refused first
              exact .argument sized same refused first
  · intro h
    cases h with
    | size rejected => exact .inl rejected
    | count sized differs => exact .inr ⟨_, sized, if_pos differs⟩
    | @argument groups index f sized same refused first =>
        refine .inr ⟨_, sized, ?_⟩
        have hc : checkArguments 0 (arguments.zip e.bindings) = .error f :=
          checkArguments_eq_error_iff.mpr
            ⟨index, pairRefused_zip_iff.mpr refused,
              fun lower hl g => mt pairRefused_zip_iff.mp (first lower hl g)⟩
        rw [if_neg (not_not_intro same), hc]
        rfl

theorem dispatchSize_cases (e : Executable) (hw : shape.WordSized) (hl : limit < Nat.pow 2 32) :
    (∃ groups, dispatchSize e.workgroup shape limit = .ok groups) ∨
      ∃ f, dispatchSize e.workgroup shape limit = .fault f := by
  cases hd : dispatchSize e.workgroup shape limit with
  | ok groups => exact .inl ⟨groups, rfl⟩
  | fault f => exact .inr ⟨f, rfl⟩
  | unwound p =>
      exact absurd hd (dispatchSize_ne_unwound fun axis => axisGroups_ne_unwound (hw axis) hl p)

/-- There is a reason to refuse a launch if any of its checks fails. -/
theorem exists_refusesLaunch_iff (hw : shape.WordSized) (hl : limit < Nat.pow 2 32) :
    (∃ f, RefusesLaunch limit e shape arguments f) ↔
      (∃ f, dispatchSize e.workgroup shape limit = .fault f) ∨
      arguments.length ≠ e.bindings.length ∨
      ∃ index f, RefusedAt e.bindings arguments index f := by
  constructor
  · rintro ⟨f, h⟩
    cases h with
    | size rejected => exact .inl ⟨f, rejected⟩
    | count _ differs => exact .inr (.inl differs)
    | argument _ _ refused _ => exact .inr (.inr ⟨_, f, refused⟩)
  · intro h
    obtain ⟨groups, sized⟩ | ⟨f, rejected⟩ := dispatchSize_cases e hw hl
    · by_cases same : arguments.length = e.bindings.length
      · rcases h with ⟨f, rejected⟩ | differs | refused
        · exact ⟨f, .size rejected⟩
        · exact absurd same differs
        · obtain ⟨f, hf⟩ := exists_checkArguments_error_iff.mpr refused
          obtain ⟨index, refused, first⟩ := checkArguments_eq_error_iff.mp hf
          simp only [pairRefused_zip_iff] at refused first
          exact ⟨f, .argument sized same refused first⟩
      · exact ⟨_, .count sized same⟩
    · exact ⟨f, .size rejected⟩

/-- Only the checks refuse a launch with a fault; what the device refuses itself unwinds. -/
theorem submit_eq_fault_iff {queue : Queue carriers} {m : Machine carriers} :
    (p.submit queue e shape arguments m).1 = .fault f ↔
      checkLaunch p.workgroups e shape arguments = .fault f := by
  cases hc : checkLaunch p.workgroups e shape arguments with
  | fault g => simp only [Platform.submit, hc, Outcome.fault.injEq]
  | unwound panic => simp only [Platform.submit, hc, reduceCtorEq]
  | ok u =>
      simp only [Platform.submit, hc]
      split <;> simp

theorem submit_of_fault {queue : Queue carriers} {m : Machine carriers}
    (h : checkLaunch p.workgroups e shape arguments = .fault f) :
    (p.submit queue e shape arguments m).2 = m.releaseBuffers (boundBuffers arguments) := by
  simp only [Platform.submit, h]

theorem checkLaunch_ne_unwound (hw : shape.WordSized) (hl : limit < Nat.pow 2 32)
    (panic : Panic) : checkLaunch limit e shape arguments ≠ .unwound panic := by
  intro h
  rw [checkLaunch, Outcome.bind_eq_unwound_iff] at h
  rcases h with h | ⟨groups, -, h⟩
  · obtain ⟨groups, sized⟩ | ⟨f, rejected⟩ := dispatchSize_cases e hw hl
    · rw [sized] at h
      cases h
    · rw [rejected] at h
      cases h
  · split at h
    · cases h
    · cases hc : checkArguments 0 (arguments.zip e.bindings) with
      | ok u => rw [hc] at h; cases h
      | error g => rw [hc] at h; cases h

/-- A launch that nothing is wrong with is submitted, unless the device itself refuses it. -/
theorem submit_of_not_fault {queue : Queue carriers} {m : Machine carriers} (hw : shape.WordSized)
    (hn : ¬ ∃ f, (p.submit queue e shape arguments m).1 = .fault f)
    (hv : p.takesLaunch queue.context m.buffers e shape arguments = true) :
    p.submit queue e shape arguments m = (.ok (boundBuffers arguments), m) := by
  simp only [submit_eq_fault_iff] at hn
  cases hc : checkLaunch p.workgroups e shape arguments with
  | fault f => exact absurd ⟨f, hc⟩ hn
  | unwound panic => exact absurd hc (checkLaunch_ne_unwound hw p.workgroups_lt panic)
  | ok u => simp only [Platform.submit, hc, if_pos hv]

/-- What may be written is a buffer that is bound for writing, once nothing is refused. -/
theorem writable_of_not_refused {index : Nat} {kind : BindingKind} {x : BoundArgument}
    (hn : ∀ f, ¬ Unsuited index kind x f) (hk : kind.isWritable = true) :
    ∃ handle type access, x = .buffer handle type access ∧ access.writes = true := by
  cases x with
  | scalar value => exact absurd (.constant hk) (hn _)
  | buffer handle type access =>
      cases access with
      | read => exact absurd (.readOnly hk) (hn _)
      | write => exact ⟨handle, type, .write, rfl, rfl⟩
      | readWrite => exact ⟨handle, type, .readWrite, rfl, rfl⟩

end Launches

/-- A launch is refused with a fault exactly if its size is, or it has not one argument for each
binding, or an argument does not suit its binding; the fault tells the first of these, and nothing
is submitted. So in a launch that is submitted, what the shader may write are buffers that are bound
for writing. What else the device of the platform refuses is no fault. -/
theorem launches_checked (p : Platform) (queue : Queue carriers) (e : Executable)
    (shape : LaunchShape) (arguments : List BoundArgument) (m : Machine carriers)
    (hw : shape.WordSized) :
    let submitted := p.submit queue e shape arguments m
    ((∃ f, submitted.1 = .fault f) ↔
      (∃ f, dispatchSize e.workgroup shape p.workgroups = .fault f) ∨
      arguments.length ≠ e.bindings.length ∨
      ∃ index f, RefusedAt e.bindings arguments index f) ∧
    (∀ f, submitted.1 = .fault f ↔ RefusesLaunch p.workgroups e shape arguments f) ∧
    (∀ f, submitted.1 = .fault f → submitted.2 = m.releaseBuffers (boundBuffers arguments)) ∧
    ((¬ ∃ f, submitted.1 = .fault f) →
      p.takesLaunch queue.context m.buffers e shape arguments = true →
      submitted = (.ok (boundBuffers arguments), m)) ∧
    ∀ event, submitted.1 = .ok event →
      ∀ (index : Nat) (kind : BindingKind), e.bindings[index]? = some kind →
        kind.isWritable = true →
        ∃ (handle : Handle) (type : ElementType) (access : Access),
          arguments[index]? = some (.buffer handle type access) ∧ access.writes = true := by
  intro submitted
  have hf f : submitted.1 = .fault f ↔ RefusesLaunch p.workgroups e shape arguments f :=
    submit_eq_fault_iff.trans checkLaunch_eq_fault_iff
  have he : (∃ f, submitted.1 = .fault f) ↔ _ :=
    (exists_congr hf).trans (exists_refusesLaunch_iff hw p.workgroups_lt)
  refine ⟨he, hf, fun f h => submit_of_fault (submit_eq_fault_iff.mp h), submit_of_not_fault hw, ?_⟩
  intro event h index kind hk writable
  have hn : ¬ ∃ f, submitted.1 = .fault f := by
    rintro ⟨f, hf⟩
    cases hf.symm.trans h
  rw [he, not_or, not_or, not_not] at hn
  obtain ⟨-, same, suited⟩ := hn
  obtain ⟨hi, -⟩ := List.getElem?_eq_some_iff.mp hk
  have hx : arguments[index]? = some arguments[index] := List.getElem?_eq_getElem (same ▸ hi)
  obtain ⟨handle, type, access, hb, ha⟩ := writable_of_not_refused
    (fun f hu => suited ⟨index, f, kind, _, hk, hx, hu⟩) writable
  exact ⟨handle, type, access, by rw [hx, hb], ha⟩

/-- Two arguments do not suit their bindings, and the first of them is told: the constant is wide as
well, but it is its binding that refuses it. -/
theorem launches_checked_twice_wrong :
    let e : Executable :=
      ⟨⟨0, ⟨0, none⟩⟩, "", "scale", #v[64, 1, 1], [.storage true, .storage false, .storage true]⟩
    let arguments : List BoundArgument :=
      [.buffer ⟨0⟩ .f32 .read, .scalar ⟨.f64, 0⟩, .scalar ⟨.u64, 1⟩]
    let m : Machine carriers := { state := () }
    ((Platform.knowing []).submit ⟨0, e.context⟩ e ⟨1, #v[100, 1, 1], none⟩ arguments m).1 =
      .fault (.accessMismatch 1) := by
  intro e arguments m
  have hw : (⟨1, #v[100, 1, 1], none⟩ : LaunchShape).WordSized := by
    unfold LaunchShape.WordSized
    decide
  have sized : dispatchSize e.workgroup ⟨1, #v[100, 1, 1], none⟩
      (Platform.knowing []).workgroups = .ok #v[2, 1, 1] := by decide
  have first : ∀ lower < 1, ∀ g, ¬ RefusedAt e.bindings arguments lower g := by
    rintro lower hl g ⟨kind, x, hk, hx, hu⟩
    obtain rfl : lower = 0 := Nat.lt_one_iff.mp hl
    cases hk
    cases hx
    cases hu with
    | readOnly writable => cases writable
  exact ((launches_checked (.knowing []) ⟨0, e.context⟩ e _ arguments m hw).2.1 _).mpr
    (.argument sized rfl ⟨_, _, rfl, rfl, .constant rfl⟩ first)

end Offload.Gpu
