import Offload.LaunchShape
import Offload.Proofs.Lists

/-!
# Ranges in the order of a device

The conversion of a range goes through one permutation of its axes, for the global bounds and for
those of the work-groups.
-/

namespace Offload

/-! ## Axes -/

namespace AxisOrder

/-- Declared bounds in native order. -/
def arrange (order : AxisOrder) (bounds : List Nat) : List Nat :=
  match order with
  | .declared => bounds
  | .reversed => bounds.reverse

variable (order : AxisOrder) (bounds : List Nat)

theorem axis_lt {rank native : Nat} (h : native < rank) : order.axis rank native < rank := by
  cases order with
  | declared => exact h
  | reversed => simp only [axis]; omega

@[simp]
theorem length_arrange : (order.arrange bounds).length = bounds.length := by
  cases order with
  | declared => rfl
  | reversed => exact List.length_reverse

/-- Each order is a permutation of the axes, and its own inverse. -/
theorem axis_axis {rank native : Nat} (h : native < rank) :
    order.axis rank (order.axis rank native) = native := by
  cases order with
  | declared => rfl
  | reversed => simp only [axis]; omega

theorem arrange_arrange : order.arrange (order.arrange bounds) = bounds := by
  cases order with
  | declared => rfl
  | reversed => exact List.reverse_reverse bounds

theorem getElem?_arrange {native : Nat} (h : native < bounds.length) :
    (order.arrange bounds)[native]? = bounds[order.axis bounds.length native]? := by
  cases order with
  | declared => rfl
  | reversed => exact List.getElem?_reverse h

theorem getElem?_arrange_append {native : Nat} (h : native < bounds.length) (ones : List Nat) :
    (order.arrange bounds ++ ones)[native]? = bounds[order.axis bounds.length native]? := by
  have hl : native < (order.arrange bounds).length := by rwa [order.length_arrange]
  rw [List.getElem?_append_left hl, order.getElem?_arrange bounds h]

end AxisOrder

/-! ## Conversion -/

theorem Extent.upper_eq_ok {e : Extent} {axis : Nat} (h : axis < e.rank) :
    e.upper axis = .ok (e.bounds[axis]?.getD 1) := by
  have hb : e.bounds[axis]? = some e.bounds[axis] := List.getElem?_eq_getElem h
  rw [upper, hb]
  rfl

/-- An extent has every axis that its conversion asks for. -/
theorem Extent.native_rank (e : Extent) (order : AxisOrder) :
    e.native order e.rank = .ok (order.arrange e.bounds) := by
  have hm : (List.range e.rank).mapM (fun native => e.upper (order.axis e.rank native)) =
      .ok ((List.range e.rank).map fun native => e.bounds[order.axis e.rank native]?.getD 1) := by
    refine mapM_eq_ok fun native h => upper_eq_ok ?_
    exact order.axis_lt (List.mem_range.mp h)
  rw [native, if_pos rfl, hm]
  congr 1
  refine List.ext_getElem? fun i => ?_
  by_cases hi : i < e.bounds.length
  · have ha : order.axis e.bounds.length i < e.bounds.length := order.axis_lt hi
    rw [order.getElem?_arrange e.bounds hi]
    simp [rank, hi, ha]
  · simp [rank, hi]

/-- The shape that a range is launched with. -/
def LaunchRange.arranged (r : LaunchRange) (order : AxisOrder) : LaunchShape :=
  ⟨r.rank, .ofList (order.arrange r.global.bounds),
    r.workgroup?.map fun workgroup => .ofList (order.arrange workgroup.bounds)⟩

namespace LaunchRange

theorem shapeAs_rank (r : LaunchRange) (order : AxisOrder) :
    r.shapeAs order r.rank = .ok (r.arranged order) := by
  cases r with
  | flat extent =>
      simp only [shapeAs, arranged, rank, global, workgroup?, Extent.native_rank]
      rfl
  | tiled global workgroup same =>
      have hw : workgroup.native order global.rank = .ok (order.arrange workgroup.bounds) := by
        rw [same]; exact workgroup.native_rank order
      simp only [shapeAs, arranged, rank, LaunchRange.global, workgroup?,
        Extent.native_rank, Option.mapM_some, hw]
      rfl

theorem rank_cases (r : LaunchRange) : r.rank = 1 ∨ r.rank = 2 ∨ r.rank = 3 := by
  have hp : 0 < r.rank := r.global.rank_pos
  have hl : r.rank ≤ 3 := r.global.rank_le
  omega

/-- A range is never converted to another number of axes than its own. -/
theorem shape_eq (r : LaunchRange) (order : AxisOrder) :
    r.shape order = .ok (r.arranged order) := by
  rw [← r.shapeAs_rank order, shape]
  rcases r.rank_cases with h | h | h <;> simp only [h]

end LaunchRange

/-! ## Shapes -/

theorem Axes.toList_ofList {bounds : List Nat} (h : bounds.length ≤ maxRank) :
    (ofList bounds).toList = bounds ++ List.replicate (maxRank - bounds.length) 1 := by
  match bounds, h with
  | [], _ | [_], _ | [_, _], _ | [_, _, _], _ => rfl
  | _ :: _ :: _ :: _ :: rest, h => exact absurd h (by simp only [maxRank, List.length_cons]; omega)

theorem Axes.toList_arrange (e : Extent) (order : AxisOrder) :
    (ofList (order.arrange e.bounds)).toList =
      order.arrange e.bounds ++ List.replicate (maxRank - e.rank) 1 := by
  have hl : (order.arrange e.bounds).length = e.rank := order.length_arrange e.bounds
  rw [toList_ofList (hl ▸ e.rank_le), hl]

namespace LaunchShape

/-- Bounds of the native axes that there are. -/
def bounds (s : LaunchShape) : List Nat :=
  s.global.toList.take s.rank

def workgroupBounds? (s : LaunchShape) : Option (List Nat) :=
  s.workgroup?.map (·.toList.take s.rank)

/-- The native axes, declared as a range. -/
def asRange (s : LaunchShape) : Except Error LaunchRange :=
  LaunchRange.ofLists s.bounds s.workgroupBounds?

/-- A shape has the axes of a range, each with its global and its work-group bound, in one order. -/
structure Follows (s : LaunchShape) (r : LaunchRange) (order : AxisOrder) : Prop where
  rank : s.rank = r.rank
  global : s.global.toList = order.arrange r.global.bounds ++ List.replicate (maxRank - r.rank) 1
  workgroup : s.workgroup?.map (·.toList) = r.workgroup?.map fun workgroup =>
    order.arrange workgroup.bounds ++ List.replicate (maxRank - r.rank) 1
  tiled : s.workgroup?.isSome ↔ ∃ global workgroup same, r = .tiled global workgroup same
  permuted : ∀ native < r.rank, order.axis r.rank native < r.rank ∧
    order.axis r.rank (order.axis r.rank native) = native
  paired : ∀ native < r.rank,
    s.global.toList[native]? = r.global.bounds[order.axis r.rank native]? ∧
    s.workgroup?.map (·.toList[native]?) =
      r.workgroup?.map (·.bounds[order.axis r.rank native]?)

end LaunchShape

namespace LaunchRange

variable (r : LaunchRange) (order : AxisOrder)

theorem rank_workgroup {workgroup : Extent} (h : r.workgroup? = some workgroup) :
    workgroup.rank = r.rank := by
  cases r with
  | flat extent => cases h
  | tiled global workgroup same => cases h; exact same.symm

theorem arranged_global : (r.arranged order).global.toList =
    order.arrange r.global.bounds ++ List.replicate (maxRank - r.rank) 1 :=
  Axes.toList_arrange r.global order

theorem arranged_workgroup : (r.arranged order).workgroup?.map (·.toList) =
    r.workgroup?.map fun workgroup =>
      order.arrange workgroup.bounds ++ List.replicate (maxRank - r.rank) 1 := by
  rw [arranged, Option.map_map]
  refine Option.map_congr fun workgroup h => ?_
  rw [← r.rank_workgroup h]
  exact Axes.toList_arrange workgroup order

theorem arranged_follows : (r.arranged order).Follows r order := by
  refine ⟨rfl, r.arranged_global order, r.arranged_workgroup order, ?_,
    fun native h => ⟨order.axis_lt h, order.axis_axis h⟩, ?_⟩
  · cases r with
    | flat extent => simp [arranged, workgroup?]
    | tiled global workgroup same => simpa [arranged, workgroup?] using same
  · intro native h
    refine ⟨?_, ?_⟩
    · rw [arranged_global]
      exact order.getElem?_arrange_append r.global.bounds h _
    · have hw := congrArg (Option.map (·[native]?)) (r.arranged_workgroup order)
      rw [Option.map_map, Option.map_map] at hw
      refine hw.trans (Option.map_congr fun workgroup hr => ?_)
      rw [← r.rank_workgroup hr] at h ⊢
      exact order.getElem?_arrange_append workgroup.bounds h _

end LaunchRange

/-! ## Back and forth -/

/-- An extent with its axes in native order. -/
def Extent.reordered (e : Extent) (order : AxisOrder) : Extent where
  bounds := order.arrange e.bounds
  rank_pos := by rw [order.length_arrange]; exact e.rank_pos
  rank_le := by rw [order.length_arrange]; exact e.rank_le

theorem Extent.rank_reordered (e : Extent) (order : AxisOrder) :
    (e.reordered order).rank = e.rank :=
  order.length_arrange e.bounds

theorem Extent.ofList_bounds (e : Extent) : ofList e.bounds = .ok e :=
  dif_pos ⟨e.rank_pos, e.rank_le⟩

namespace LaunchRange

def reordered (r : LaunchRange) (order : AxisOrder) : LaunchRange :=
  match r with
  | .flat extent => .flat (extent.reordered order)
  | .tiled global workgroup same =>
    .tiled (global.reordered order) (workgroup.reordered order)
      (by rw [Extent.rank_reordered, Extent.rank_reordered, same])

theorem ofLists_bounds (r : LaunchRange) :
    ofLists r.global.bounds (r.workgroup?.map (·.bounds)) = .ok r := by
  cases r with
  | flat extent =>
      simp only [ofLists, global, workgroup?, Extent.ofList_bounds]
      rfl
  | tiled global workgroup same =>
      simp only [ofLists, LaunchRange.global, workgroup?, Extent.ofList_bounds, Option.map_some]
      exact dif_pos same

variable (r : LaunchRange) (order : AxisOrder)

theorem arranged_bounds : (r.arranged order).bounds = order.arrange r.global.bounds := by
  have hl : (order.arrange r.global.bounds).length = r.rank := order.length_arrange _
  rw [LaunchShape.bounds, arranged_global]
  exact List.take_left' hl

theorem arranged_workgroupBounds : (r.arranged order).workgroupBounds? =
    r.workgroup?.map fun workgroup => order.arrange workgroup.bounds := by
  have hw := congrArg (Option.map (·.take r.rank)) (r.arranged_workgroup order)
  rw [Option.map_map, Option.map_map] at hw
  refine hw.trans (Option.map_congr fun workgroup hr => ?_)
  have hl : (order.arrange workgroup.bounds).length = r.rank :=
    (order.length_arrange _).trans (r.rank_workgroup hr)
  exact List.take_left' hl

theorem asRange_arranged : (r.arranged order).asRange = .ok (r.reordered order) := by
  rw [LaunchShape.asRange, arranged_bounds, arranged_workgroupBounds,
    ← (r.reordered order).ofLists_bounds]
  cases r <;> rfl

/-- A range is converted without a panic to a shape that has its axes in the order asked for. The
axes of that shape, declared as a range and converted again, have the bounds of the first. -/
theorem shape_permutes :
    ∃ s, r.shape order = .ok s ∧ s.Follows r order ∧
      ∃ back again, s.asRange = .ok back ∧ back.shape order = .ok again ∧
        again.bounds = r.global.bounds ∧ again.workgroupBounds? = r.workgroup?.map (·.bounds) := by
  refine ⟨_, r.shape_eq order, r.arranged_follows order, _, _, r.asRange_arranged order,
    shape_eq _ order, ?_, ?_⟩
  · rw [arranged_bounds]
    cases r <;> exact order.arrange_arrange _
  · rw [arranged_workgroupBounds]
    cases r with
    | flat extent => rfl
    | tiled global workgroup same => exact congrArg some (order.arrange_arrange _)

end LaunchRange

end Offload
