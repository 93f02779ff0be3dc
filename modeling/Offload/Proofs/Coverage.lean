import Mathlib.Logic.ExistsUnique
import Mathlib.Order.Bounds.Defs
import Offload.Gpu.Dispatch

/-!
# What a dispatch covers

The groups of a dispatch on one axis are the fewest that hold the range. Every point of the range is
one item of one group, and in a tiled launch there is no other item. A launch is refused for the
lowest axis that has a reason to be.
-/

namespace Offload

theorem Axes.ext {v w : Axes} (h : ∀ axis : Fin 3, v.get axis = w.get axis) : v = w :=
  Vector.ext fun i hi => h ⟨i, hi⟩

@[simp]
theorem Axes.get_ofFn (f : Fin 3 → Nat) (axis : Fin 3) : (Vector.ofFn f : Axes).get axis = f axis :=
  Vector.getElem_ofFn _

/-- The global sizes are 64-bit words. -/
def LaunchShape.WordSized (shape : LaunchShape) : Prop :=
  ∀ axis : Fin 3, shape.global.get axis < Word.limit

namespace Gpu

/-- `count` groups of `size` items hold `global` items, and fewer do not. -/
def Holds (global size count : Nat) : Prop :=
  IsLeast {n | global ≤ n * size} count

theorem holds_iff {global size count : Nat} :
    Holds global size count ↔ ∀ n, count ≤ n ↔ global ≤ n * size := by
  constructor
  · intro h n
    refine ⟨fun hn => ?_, fun hn => h.2 hn⟩
    exact Nat.le_trans h.1 (Nat.mul_le_mul_right size hn)
  · intro h
    exact ⟨(h count).mp (Nat.le_refl count), fun n hn => (h n).mpr hn⟩

theorem Holds.unique {global size count other : Nat} (h : Holds global size count)
    (h' : Holds global size other) : count = other :=
  Nat.le_antisymm (h.2 h'.1) (h'.2 h.1)

/-- A quotient that is rounded up is the number of groups. -/
theorem holds_divCeil (global : Nat) {size : Nat} (hs : 0 < size) :
    Holds global size (global / size + if 0 < global % size then 1 else 0) := by
  have hd : global / size * size + global % size = global := Nat.div_add_mod' global size
  have hm : global % size < size := Nat.mod_lt global hs
  rw [holds_iff]
  intro n
  constructor
  · intro hn
    have hp := Nat.mul_le_mul_right size hn
    rw [Nat.add_mul] at hp
    split at hp <;> omega
  · intro hn
    refine Nat.le_of_not_lt fun hc => ?_
    -- One group less leaves room for no more than the whole groups of the quotient.
    have hq : n + 1 ≤ global / size + if 0 < global % size then 1 else 0 := by omega
    have hp := Nat.mul_le_mul_right size hq
    rw [Nat.add_mul, Nat.add_mul] at hp
    split at hp <;> omega

theorem holds_div {global size : Nat} (hs : 0 < size) (hd : size ∣ global) :
    Holds global size (global / size) := by
  have h := holds_divCeil global hs
  rwa [Nat.mod_eq_zero_of_dvd hd, if_neg (Nat.lt_irrefl 0), Nat.add_zero] at h

theorem groupSize_pos (declared : Axes) (axis : Fin 3) : 0 < groupSize declared axis :=
  Nat.lt_of_lt_of_le Nat.one_pos (Nat.le_max_right _ _)

/-! ## One axis -/

section Axis

variable (declared : Axes) (shape : LaunchShape) (limit : Nat) (axis : Fin 3)

/-- A tiled launch names the group size of the shader on an axis, and divides evenly there. -/
def TilesEvenly : Prop :=
  ∀ workgroup, shape.workgroup? = some workgroup →
    workgroup.get axis = groupSize declared axis ∧ groupSize declared axis ∣ shape.global.get axis

/-- A launch has `count` groups on an axis. -/
structure Takes (count : Nat) : Prop where
  even : TilesEvenly declared shape axis
  holds : Holds (shape.global.get axis) (groupSize declared axis) count
  within : count ≤ limit

/-- Why a launch is refused on an axis. Of several reasons the first in this order counts. -/
inductive Refuses : Fault → Prop where
  | mismatch {workgroup} (tiled : shape.workgroup? = some workgroup)
      (differs : workgroup.get axis ≠ groupSize declared axis) :
      Refuses (.workgroupMismatch axis (workgroup.get axis) (declared.get axis))
  | uneven {workgroup} (tiled : shape.workgroup? = some workgroup)
      (same : workgroup.get axis = groupSize declared axis)
      (rest : ¬ groupSize declared axis ∣ shape.global.get axis) :
      Refuses (.nonUniformRange axis (shape.global.get axis) (groupSize declared axis))
  | tooLarge {count} (even : TilesEvenly declared shape axis)
      (holds : Holds (shape.global.get axis) (groupSize declared axis) count)
      (above : limit < count) :
      Refuses (.dispatchTooLarge axis count limit)

variable {declared shape limit axis}

/-- In a tiled launch that is accepted the groups make up the range. -/
theorem Takes.mul_eq {count : Nat} {workgroup : Axes} (h : Takes declared shape limit axis count)
    (tiled : shape.workgroup? = some workgroup) :
    count * groupSize declared axis = shape.global.get axis := by
  have hd : groupSize declared axis ∣ shape.global.get axis := (h.even workgroup tiled).2
  rw [h.holds.unique (holds_div (groupSize_pos declared axis) hd), Nat.div_mul_cancel hd]

theorem Takes.not_refuses {count : Nat} {f : Fault} (h : Takes declared shape limit axis count) :
    ¬ Refuses declared shape limit axis f := by
  intro hr
  cases hr with
  | mismatch tiled differs => exact differs (h.even _ tiled).1
  | uneven tiled same rest => exact rest (h.even _ tiled).2
  | tooLarge even holds above =>
      rw [h.holds.unique holds] at h
      exact Nat.not_lt.mpr h.within above

variable (limit) in
theorem groupCount_cases (hg : shape.global.get axis < Word.limit) :
    (∃ count, groupCount declared shape axis = .ok count ∧ TilesEvenly declared shape axis ∧
      Holds (shape.global.get axis) (groupSize declared axis) count) ∨
    ∃ f, groupCount declared shape axis = .fault f ∧ Refuses declared shape limit axis f := by
  have hs : 0 < groupSize declared axis := groupSize_pos declared axis
  unfold groupCount
  cases ht : shape.workgroup? with
  | none =>
      have he : TilesEvenly declared shape axis := by
        intro workgroup tiled
        rw [ht] at tiled
        cases tiled
      exact .inl ⟨_, congrArg Outcome.ofPanicking (Word.divCeil_eq_ok hg hs), he, holds_divCeil _ hs⟩
  | some workgroup =>
      simp only
      split
      · next differs => exact .inr ⟨_, rfl, .mismatch ht differs⟩
      · next same =>
          have same : workgroup.get axis = groupSize declared axis := Decidable.not_not.mp same
          rw [Word.rem_eq_ok hs, Word.div_eq_ok hs]
          by_cases hd : groupSize declared axis ∣ shape.global.get axis
          · have he : TilesEvenly declared shape axis := by
              intro other tiled
              rw [ht] at tiled
              cases tiled
              exact ⟨same, hd⟩
            exact .inl ⟨_, if_neg (not_not_intro (Nat.mod_eq_zero_of_dvd hd)), he, holds_div hs hd⟩
          · have hr : shape.global.get axis % groupSize declared axis ≠ 0 :=
              fun h => hd (Nat.dvd_of_mod_eq_zero h)
            exact .inr ⟨_, if_pos hr, .uneven ht same hd⟩

variable (declared) in
/-- On an axis of 64 bits a launch is accepted or refused; no step of the way there overflows, and the
32-bit count is the whole one. -/
theorem axisGroups_cases (hg : shape.global.get axis < Word.limit) (hl : limit < Nat.pow 2 32) :
    (∃ count, axisGroups declared shape limit axis = .ok count ∧
      Takes declared shape limit axis count) ∨
    ∃ f, axisGroups declared shape limit axis = .fault f ∧
      Refuses declared shape limit axis f := by
  unfold axisGroups
  obtain ⟨count, hc, even, holds⟩ | ⟨f, hf, refused⟩ := groupCount_cases limit hg
  · rw [hc]
    by_cases hn : limit < count
    · exact .inr ⟨_, if_pos hn, .tooLarge even holds hn⟩
    · have hn : count ≤ limit := Nat.not_lt.mp hn
      have hw : Word.narrow count = count := Word.narrow_eq_self (Nat.lt_of_le_of_lt hn hl)
      refine .inl ⟨count, ?_, even, holds, hn⟩
      exact (if_neg (Nat.not_lt.mpr hn)).trans (congrArg Outcome.ok hw)
  · rw [hf]
    exact .inr ⟨f, rfl, refused⟩

theorem Refuses.unique {f f' : Fault} (h : Refuses declared shape limit axis f)
    (h' : Refuses declared shape limit axis f') : f = f' := by
  cases h with
  | mismatch tiled differs =>
      cases h' with
      | mismatch tiled' _ => rw [tiled] at tiled'; cases tiled'; rfl
      | uneven tiled' same _ => rw [tiled] at tiled'; cases tiled'; exact absurd same differs
      | tooLarge even _ _ => exact absurd (even _ tiled).1 differs
  | uneven tiled same rest =>
      cases h' with
      | mismatch tiled' differs => rw [tiled] at tiled'; cases tiled'; exact absurd same differs
      | uneven _ _ _ => rfl
      | tooLarge even _ _ => exact absurd (even _ tiled).2 rest
  | tooLarge even holds above =>
      cases h' with
      | mismatch tiled differs => exact absurd (even _ tiled).1 differs
      | uneven tiled _ rest => exact absurd (even _ tiled).2 rest
      | tooLarge _ holds' _ => rw [holds.unique holds']

theorem axisGroups_eq_ok_iff (hg : shape.global.get axis < Word.limit) (hl : limit < Nat.pow 2 32)
    {count : Nat} : axisGroups declared shape limit axis = .ok count ↔
      Takes declared shape limit axis count := by
  obtain ⟨n, hn, takes⟩ | ⟨f, hf, refused⟩ := axisGroups_cases declared hg hl
  · rw [hn, Outcome.ok.injEq]
    exact ⟨fun h => h ▸ takes, fun h => takes.holds.unique h.holds⟩
  · rw [hf]
    exact ⟨fun h => (nomatch h), fun h => absurd refused h.not_refuses⟩

theorem axisGroups_eq_fault_iff (hg : shape.global.get axis < Word.limit) (hl : limit < Nat.pow 2 32)
    {f : Fault} : axisGroups declared shape limit axis = .fault f ↔
      Refuses declared shape limit axis f := by
  obtain ⟨n, hn, takes⟩ | ⟨f', hf, refused⟩ := axisGroups_cases declared hg hl
  · rw [hn]
    exact ⟨fun h => (nomatch h), fun h => absurd h takes.not_refuses⟩
  · rw [hf, Outcome.fault.injEq]
    exact ⟨fun h => h ▸ refused, fun h => refused.unique h⟩

/-- An axis is accepted if there is no reason against it. -/
theorem exists_axisGroups_iff (hg : shape.global.get axis < Word.limit) (hl : limit < Nat.pow 2 32) :
    (∃ count, axisGroups declared shape limit axis = .ok count) ↔
      ∀ f, ¬ Refuses declared shape limit axis f := by
  obtain ⟨n, hn, takes⟩ | ⟨f, hf, refused⟩ := axisGroups_cases declared hg hl
  · exact ⟨fun _ f => takes.not_refuses, fun _ => ⟨n, hn⟩⟩
  · rw [hf]
    exact ⟨fun ⟨_, h⟩ => (nomatch h), fun h => absurd refused (h f)⟩

theorem axisGroups_ne_unwound (hg : shape.global.get axis < Word.limit) (hl : limit < Nat.pow 2 32)
    (p : Panic) : axisGroups declared shape limit axis ≠ .unwound p := by
  intro h
  obtain ⟨n, hn, -⟩ | ⟨f, hf, -⟩ := axisGroups_cases declared hg hl
  · cases hn.symm.trans h
  · cases hf.symm.trans h

end Axis

/-! ## All axes -/

section Axes

variable {declared : Axes} {shape : LaunchShape} {limit : Nat}

theorem dispatchSize_eq_ok_iff {groups : Axes} :
    dispatchSize declared shape limit = .ok groups ↔
      ∀ axis, axisGroups declared shape limit axis = .ok (groups.get axis) := by
  simp only [dispatchSize, Outcome.bind_eq_ok_iff]
  constructor
  · rintro ⟨x, hx, y, hy, z, hz, h⟩
    cases h
    intro axis
    match axis with
    | 0 => exact hx
    | 1 => exact hy
    | 2 => exact hz
  · intro h
    refine ⟨_, h 0, _, h 1, _, h 2, congrArg Outcome.ok (Axes.ext fun axis => ?_)⟩
    match axis with
    | 0 | 1 | 2 => rfl

theorem dispatchSize_eq_fault_iff {f : Fault} :
    dispatchSize declared shape limit = .fault f ↔
      ∃ axis, axisGroups declared shape limit axis = .fault f ∧
        ∀ lower < axis, ∃ count, axisGroups declared shape limit lower = .ok count := by
  simp only [dispatchSize, Outcome.bind_eq_fault_iff]
  constructor
  · rintro (h | ⟨x, hx, h | ⟨y, hy, h | ⟨z, hz, h⟩⟩⟩)
    · exact ⟨0, h, fun lower hl => absurd hl (Fin.not_lt_zero lower)⟩
    · refine ⟨1, h, fun lower hl => ?_⟩
      match lower with
      | 0 => exact ⟨x, hx⟩
    · refine ⟨2, h, fun lower hl => ?_⟩
      match lower with
      | 0 => exact ⟨x, hx⟩
      | 1 => exact ⟨y, hy⟩
    · cases h
  · rintro ⟨axis, h, hl⟩
    match axis with
    | 0 => exact .inl h
    | 1 =>
      obtain ⟨x, hx⟩ := hl 0 (by decide)
      exact .inr ⟨x, hx, .inl h⟩
    | 2 =>
      obtain ⟨x, hx⟩ := hl 0 (by decide)
      obtain ⟨y, hy⟩ := hl 1 (by decide)
      exact .inr ⟨x, hx, .inr ⟨y, hy, .inl h⟩⟩

theorem dispatchSize_ne_unwound {p : Panic}
    (h : ∀ axis, axisGroups declared shape limit axis ≠ .unwound p) :
    dispatchSize declared shape limit ≠ .unwound p := by
  simp only [dispatchSize, ne_eq, Outcome.bind_eq_unwound_iff]
  rintro (hx | ⟨x, -, hy | ⟨y, -, hz | ⟨z, -, hr⟩⟩⟩)
  · exact h 0 hx
  · exact h 1 hy
  · exact h 2 hz
  · cases hr

end Axes

/-! ## Items -/

/-- One item of a dispatch: its group, and its place in the group. -/
structure Item where
  group : Axes
  place : Axes

namespace Item

/-- The item is one of the groups of a dispatch. -/
def Within (declared groups : Axes) (item : Item) : Prop :=
  ∀ axis : Fin 3, item.group.get axis < groups.get axis ∧
    item.place.get axis < groupSize declared axis

/-- The point that an item runs. -/
def point (declared : Axes) (item : Item) : Axes :=
  Vector.ofFn fun axis => item.group.get axis * groupSize declared axis + item.place.get axis

variable {declared groups p : Axes} {shape : LaunchShape} {limit : Nat}

@[simp]
theorem point_get (declared : Axes) (item : Item) (axis : Fin 3) :
    (item.point declared).get axis =
      item.group.get axis * groupSize declared axis + item.place.get axis := by
  simp [point]

theorem group_eq {item : Item} (h : item.Within declared groups) (axis : Fin 3) :
    item.group.get axis = (item.point declared).get axis / groupSize declared axis := by
  rw [point_get, Nat.mul_comm, Nat.mul_add_div (groupSize_pos declared axis),
    Nat.div_eq_of_lt (h axis).2, Nat.add_zero]

theorem place_eq {item : Item} (h : item.Within declared groups) (axis : Fin 3) :
    item.place.get axis = (item.point declared).get axis % groupSize declared axis := by
  rw [point_get, Nat.mul_comm, Nat.mul_add_mod, Nat.mod_eq_of_lt (h axis).2]

/-- A point is run by one item at most. -/
theorem eq_of_point {item other : Item} (h : item.Within declared groups)
    (h' : other.Within declared groups) (hp : item.point declared = other.point declared) :
    item = other := by
  have hg : item.group = other.group :=
    Axes.ext fun axis => by rw [group_eq h, group_eq h', hp]
  have hs : item.place = other.place :=
    Axes.ext fun axis => by rw [place_eq h, place_eq h', hp]
  cases item
  cases other
  cases hg
  cases hs
  rfl

theorem exists_item (ht : ∀ axis, Takes declared shape limit axis (groups.get axis))
    (hp : ∀ axis : Fin 3, p.get axis < shape.global.get axis) :
    ∃ item : Item, item.Within declared groups ∧ item.point declared = p := by
  refine ⟨⟨.ofFn fun axis => p.get axis / groupSize declared axis,
    .ofFn fun axis => p.get axis % groupSize declared axis⟩, fun axis => ?_, Axes.ext fun axis => ?_⟩
  · have hs : 0 < groupSize declared axis := groupSize_pos declared axis
    have hg : p.get axis < groups.get axis * groupSize declared axis :=
      Nat.lt_of_lt_of_le (hp axis) (ht axis).holds.1
    have hd : p.get axis / groupSize declared axis < groups.get axis :=
      (Nat.div_lt_iff_lt_mul hs).mpr hg
    simpa using ⟨hd, Nat.mod_lt (p.get axis) hs⟩
  · rw [point_get]
    simp [Nat.div_add_mod']

/-- The items of a tiled launch run no point that is not in the range. -/
theorem point_lt_of_tiled {item : Item} {workgroup : Axes}
    (ht : ∀ axis, Takes declared shape limit axis (groups.get axis))
    (tiled : shape.workgroup? = some workgroup) (h : item.Within declared groups) (axis : Fin 3) :
    (item.point declared).get axis < shape.global.get axis := by
  obtain ⟨hg, hs⟩ := h axis
  rw [point_get, ← (ht axis).mul_eq tiled]
  calc item.group.get axis * groupSize declared axis + item.place.get axis
      < item.group.get axis * groupSize declared axis + groupSize declared axis :=
        Nat.add_lt_add_left hs _
    _ = (item.group.get axis + 1) * groupSize declared axis := (Nat.succ_mul _ _).symm
    _ ≤ groups.get axis * groupSize declared axis := Nat.mul_le_mul_right _ hg

end Item

/-- A launch with 64-bit sizes is dispatched or refused, without a panic on the way. A dispatch has
on each axis the fewest groups that hold the range, within the limit; of a tiled launch they make up
the range. Each point of the range is one item of the dispatch, and no other point is an item of a
tiled one. A launch is refused exactly if an axis has a reason for it, for the lowest such axis. -/
theorem dispatch_covers (declared : Axes) (shape : LaunchShape) (limit : Nat) (hw : shape.WordSized)
    (hl : limit < Nat.pow 2 32) :
    let outcome := dispatchSize declared shape limit
    (∀ p, outcome ≠ .unwound p) ∧
    (∀ groups, outcome = .ok groups →
      (∀ axis : Fin 3, groups.get axis ≤ limit ∧
        IsLeast {n | shape.global.get axis ≤ n * groupSize declared axis} (groups.get axis) ∧
        ∀ workgroup, shape.workgroup? = some workgroup →
          workgroup.get axis = groupSize declared axis ∧
          groups.get axis * groupSize declared axis = shape.global.get axis) ∧
      (∀ point : Axes, (∀ axis : Fin 3, point.get axis < shape.global.get axis) →
        ∃! item : Item, item.Within declared groups ∧ item.point declared = point) ∧
      (shape.workgroup?.isSome → ∀ item : Item, item.Within declared groups →
        ∀ axis : Fin 3, (item.point declared).get axis < shape.global.get axis)) ∧
    ∀ f, outcome = .fault f ↔ ∃ axis, Refuses declared shape limit axis f ∧
      ∀ lower < axis, ∀ g, ¬ Refuses declared shape limit lower g := by
  intro outcome
  refine ⟨fun p => ?_, fun groups hg => ?_, fun f => ?_⟩
  · exact dispatchSize_ne_unwound fun axis => axisGroups_ne_unwound (hw axis) hl p
  · have ht (axis : Fin 3) : Takes declared shape limit axis (groups.get axis) :=
      (axisGroups_eq_ok_iff (hw axis) hl).mp (dispatchSize_eq_ok_iff.mp hg axis)
    refine ⟨fun axis => ⟨(ht axis).within, (ht axis).holds, fun workgroup tiled => ?_⟩,
      fun point hp => ?_, fun hs item hi axis => ?_⟩
    · exact ⟨((ht axis).even workgroup tiled).1, (ht axis).mul_eq tiled⟩
    · obtain ⟨item, hi, he⟩ := Item.exists_item ht hp
      refine ⟨item, ⟨hi, he⟩, fun other ho => ?_⟩
      exact Item.eq_of_point ho.1 hi (ho.2.trans he.symm)
    · obtain ⟨workgroup, tiled⟩ := Option.isSome_iff_exists.mp hs
      exact Item.point_lt_of_tiled ht tiled hi axis
  · rw [show (outcome = .fault f) = _ from rfl, dispatchSize_eq_fault_iff]
    refine exists_congr fun axis => and_congr (axisGroups_eq_fault_iff (hw axis) hl) ?_
    refine forall_congr' fun lower => imp_congr_right fun _ => ?_
    rw [exists_axisGroups_iff (hw lower) hl]

/-- The last point of a flat launch of 100 items in groups of 64. The size that is declared as zero
counts as one. -/
theorem dispatch_covers_rounded :
    let shape : LaunchShape := ⟨1, #v[100, 1, 1], none⟩
    shape.WordSized ∧ 65535 < Nat.pow 2 32 ∧
      dispatchSize #v[64, 1, 0] shape 65535 = .ok #v[2, 1, 1] ∧
      ∃! item : Item, item.Within #v[64, 1, 0] #v[2, 1, 1] ∧
        item.point #v[64, 1, 0] = #v[99, 0, 0] := by
  intro shape
  have hw : shape.WordSized := by unfold LaunchShape.WordSized; decide
  have hg : dispatchSize #v[64, 1, 0] shape 65535 = .ok #v[2, 1, 1] := by decide
  obtain ⟨-, covered, -⟩ := dispatch_covers #v[64, 1, 0] shape 65535 hw (by decide)
  exact ⟨hw, by decide, hg, (covered _ hg).2.1 #v[99, 0, 0] (by decide)⟩

end Gpu

end Offload
