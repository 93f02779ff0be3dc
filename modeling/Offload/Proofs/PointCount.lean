import Mathlib.Algebra.BigOperators.Group.List.Lemmas
import Mathlib.Algebra.BigOperators.Ring.List
import Mathlib.Algebra.Order.BigOperators.GroupWithZero.List
import Mathlib.Algebra.Order.Ring.Nat
import Mathlib.Data.List.TakeWhile
import Offload.Proofs.AxisOrder

/-!
# Points of a range

The number of points is a product taken from the left, and a zero only keeps what comes after it
from overflowing. So there is a number if the bounds in front of the first empty axis multiply to a
word. Another order of the axes has other bounds in front of an empty one.
-/

namespace Offload

/-! ## Products -/

namespace Word

/-- The factors in front of the first zero multiply to a word. -/
def Fits (factors : List Nat) : Prop :=
  (factors.takeWhile (· ≠ 0)).prod < limit

instance (factors : List Nat) : Decidable (Fits factors) :=
  inferInstanceAs (Decidable (_ < _))

theorem prod_takeWhile_pos (factors : List Nat) : 0 < (factors.takeWhile (· ≠ 0)).prod := by
  refine List.prod_pos fun a ha => Nat.pos_of_ne_zero ?_
  simpa using List.mem_takeWhile_imp ha

theorem foldlM_mul (factors : List Nat) {acc : Nat} (hacc : acc < limit) :
    factors.foldlM mul acc =
      if acc * (factors.takeWhile (· ≠ 0)).prod < limit then .ok (acc * factors.prod)
      else .error (.overflow .multiply) := by
  induction factors generalizing acc with
  | nil => simp [hacc, pure, Except.pure]
  | cons a rest ih =>
      rw [List.foldlM_cons, mul]
      by_cases ha : a = 0
      -- From a zero on, the product is zero.
      · subst ha
        have hz : acc * 0 < limit := by simp [limit]
        rw [if_pos hz]
        refine (ih hz).trans ?_
        simp only [Nat.mul_zero, Nat.zero_mul] at hz ⊢
        simp [hacc, hz]
      · have hp := prod_takeWhile_pos rest
        rw [List.takeWhile_cons_of_pos (by simpa using ha), List.prod_cons, List.prod_cons,
          ← Nat.mul_assoc, ← Nat.mul_assoc]
        by_cases hm : acc * a < limit
        · rw [if_pos hm]
          exact ih hm
        · have hl : ¬ acc * a * (rest.takeWhile (· ≠ 0)).prod < limit := fun h =>
            hm (Nat.lt_of_le_of_lt (Nat.le_mul_of_pos_right _ hp) h)
          rw [if_neg hm, if_neg hl]
          rfl

/-- Only the factors in front of the first zero can make a product overflow. -/
theorem product_eq (factors : List Nat) : product factors =
    if Fits factors then .ok factors.prod else .error (.overflow .multiply) := by
  have h1 : 1 < limit := by decide
  simpa [product, Fits] using foldlM_mul factors h1

theorem fits_append_ones (factors : List Nat) (count : Nat) :
    Fits (factors ++ List.replicate count 1) ↔ Fits factors := by
  have hp : ((factors ++ List.replicate count 1).takeWhile (· ≠ 0)).prod =
      (factors.takeWhile (· ≠ 0)).prod := by
    induction factors with
    | nil => simp
    | cons a rest ih =>
        simp only [List.cons_append, List.takeWhile_cons]
        split
        · rw [List.prod_cons, List.prod_cons, ih]
        · rfl
  rw [Fits, Fits, hp]

/-- Without a zero, all factors are in front of the first one. -/
theorem fits_of_zero_not_mem {factors : List Nat} (h : 0 ∉ factors) :
    Fits factors ↔ factors.prod < limit := by
  have ht : factors.takeWhile (· ≠ 0) = factors := by
    refine List.takeWhile_eq_self_iff.mpr fun a ha => ?_
    simpa using ne_of_mem_of_not_mem ha h
  rw [Fits, ht]

/-- What comes in front of a zero is among the factors that are not zero. -/
theorem fits_of_nonzero {factors : List Nat} (h : (factors.filter (· ≠ 0)).prod < limit) :
    Fits factors := by
  have hs : (factors.takeWhile (· ≠ 0)).Sublist (factors.filter (· ≠ 0)) := by
    have ht : (factors.takeWhile (· ≠ 0)).filter (· ≠ 0) = factors.takeWhile (· ≠ 0) :=
      List.filter_eq_self.mpr fun a ha => by simpa using List.mem_takeWhile_imp ha
    rw [← ht]
    exact (List.takeWhile_sublist _).filter _
  have hp : 0 < (factors.filter (· ≠ 0)).prod :=
    List.prod_pos fun a ha => Nat.pos_of_ne_zero (by simpa using List.of_mem_filter ha)
  exact Nat.lt_of_le_of_lt (Nat.le_of_dvd hp hs.prod_dvd_prod) h

end Word

/-! ## Counts -/

namespace AxisOrder

variable (order : AxisOrder) (bounds : List Nat)

theorem arrange_perm : (order.arrange bounds).Perm bounds := by
  cases order with
  | declared => exact .refl bounds
  | reversed => exact List.reverse_perm bounds

theorem fits_arrange (h : 0 ∉ bounds ∨ (bounds.filter (· ≠ 0)).prod < Word.limit) :
    Word.Fits (order.arrange bounds) ↔ Word.Fits bounds := by
  have hp := order.arrange_perm bounds
  rcases h with h | h
  · have ha : 0 ∉ order.arrange bounds := fun hm => h (hp.mem_iff.mp hm)
    rw [Word.fits_of_zero_not_mem h, Word.fits_of_zero_not_mem ha, hp.prod_eq]
  · have ha : ((order.arrange bounds).filter (· ≠ 0)).prod < Word.limit := by
      rwa [(hp.filter _).prod_eq]
    exact iff_of_true (Word.fits_of_nonzero ha) (Word.fits_of_nonzero h)

end AxisOrder

theorem Extent.count_eq (e : Extent) : e.count =
    if Word.Fits e.bounds then .ok e.bounds.prod else .error (.overflow .multiply) :=
  Word.product_eq e.bounds

namespace LaunchRange

variable (r : LaunchRange) (order : AxisOrder)

/-- The axes that are missing do not count. -/
theorem itemCount_arranged : (r.arranged order).itemCount =
    if Word.Fits (order.arrange r.global.bounds) then .ok r.global.bounds.prod
    else .error (.overflow .multiply) := by
  have hp : (order.arrange r.global.bounds ++ List.replicate (maxRank - r.rank) 1).prod =
      r.global.bounds.prod := by
    rw [List.prod_append, List.prod_replicate, one_pow, mul_one,
      (order.arrange_perm r.global.bounds).prod_eq]
  rw [LaunchShape.itemCount, r.arranged_global order, Word.product_eq, hp]
  simp only [Word.fits_append_ones]

/-- A range has as many work items as points, unless the bounds in front of an empty axis are a word
in the one order of the axes and overflow in the other. -/
theorem itemCount_eq_count_iff :
    ∃ s, r.shape order = .ok s ∧
      (s.itemCount = r.global.count ↔
        (Word.Fits (order.arrange r.global.bounds) ↔ Word.Fits r.global.bounds)) ∧
      (order = .declared ∨ 0 ∉ r.global.bounds ∨
        (r.global.bounds.filter (· ≠ 0)).prod < Word.limit → s.itemCount = r.global.count) ∧
      (r.global.count = if Word.Fits r.global.bounds then .ok r.global.bounds.prod
        else .error (.overflow .multiply)) ∧
      s.itemCount = if Word.Fits (order.arrange r.global.bounds) then .ok r.global.bounds.prod
        else .error (.overflow .multiply) := by
  have hc := r.global.count_eq
  have hi := r.itemCount_arranged order
  have he : (r.arranged order).itemCount = r.global.count ↔
      (Word.Fits (order.arrange r.global.bounds) ↔ Word.Fits r.global.bounds) := by
    rw [hi, hc]
    split <;> split <;> simp_all
  refine ⟨_, r.shape_eq order, he, fun h => he.mpr ?_, hc, hi⟩
  rcases h with rfl | h
  · exact Iff.rfl
  · exact order.fits_arrange _ h

/-- Behind an empty axis nothing overflows, in front of it two others do. -/
theorem reversed_itemCount_overflows :
    ∃ r s, ofLists [0, 0x100000000, 0x100000000] none = .ok r ∧ r.shape .reversed = .ok s ∧
      r.global.count = .ok 0 ∧ s.itemCount = .error (.overflow .multiply) :=
  ⟨_, _, rfl, rfl, rfl, rfl⟩

end LaunchRange

/-! ## Empty ranges -/

namespace Extent

/-- A range knows whether it is empty if the bounds in front of its first empty axis are a word. -/
theorem isEmpty_iff (e : Extent) :
    ((∃ empty, e.isEmpty = .ok empty ∧ (empty = true ↔ 0 ∈ e.bounds)) ↔ Word.Fits e.bounds) ∧
      (¬ Word.Fits e.bounds → e.isEmpty = .error (.overflow .multiply)) := by
  by_cases hf : Word.Fits e.bounds
  · have he : e.isEmpty = .ok (e.bounds.prod == 0) := by
      rw [isEmpty, e.count_eq, if_pos hf]
      rfl
    refine ⟨iff_of_true ⟨_, he, ?_⟩ hf, fun h => absurd hf h⟩
    rw [beq_iff_eq, List.prod_eq_zero_iff]
  · have he : e.isEmpty = .error (.overflow .multiply) := by
      rw [isEmpty, e.count_eq, if_neg hf]
      rfl
    refine ⟨iff_of_false (fun ⟨_, h, _⟩ => ?_) hf, fun _ => he⟩
    rw [he] at h
    cases h

/-- Two axes overflow before the empty one is seen. -/
theorem isEmpty_overflows :
    ∃ e, ofList [0x100000000, 0x100000000, 0] = .ok e ∧ 0 ∈ e.bounds ∧
      e.isEmpty = .error (.overflow .multiply) :=
  ⟨_, rfl, by decide, rfl⟩

end Extent

end Offload
