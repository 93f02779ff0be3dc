import Offload.Blocking

/-!
# Block sizes

There is a block size for all rows and caches: no step on the way to it leaves the words or divides
by nothing.
-/

namespace Offload.Blocking

theorem fourFifths_lt (n : Nat) : fourFifths n < Word.limit :=
  Nat.lt_of_le_of_lt (Nat.min_le_right _ _) (by decide)

theorem exists_rowsBeside (t : ElementType) (bytes dim clusters : Nat) :
    ∃ rows, rowsBeside t bytes dim clusters = .ok rows := by
  rw [rowsBeside, Word.div_eq_ok t.size_pos]
  simp only [bind, Except.bind]
  split
  · next h => exact ⟨_, Word.div_eq_ok (Nat.pos_of_ne_zero h.2)⟩
  · exact ⟨0, rfl⟩

/-- Rounding down to a multiple stays in the words. -/
theorem roundDown_eq_ok {n : Nat} (step : Nat) (hn : n < Word.limit) (hs : 0 < step) :
    (do Word.mul (← Word.div n step) step) = .ok (n / step * step) := by
  rw [Word.div_eq_ok hs]
  exact Word.mul_eq_ok (Nat.lt_of_le_of_lt (Nat.div_mul_le_self n step) hn)

/-- A block that is taken from a cache has at least eight rows. -/
theorem exists_estimate {scale inner outer : Nat} (hp : 0 < scale) (hs : 512 * scale < Word.limit)
    (hi : inner < Word.limit) (ho : outer < Word.limit) :
    ∃ block, estimate scale inner outer = .ok block ∧ 8 ≤ block := by
  rw [estimate, Word.mul_eq_ok (show 256 * scale < Word.limit by omega), Word.mul_eq_ok hs]
  simp only [bind, Except.bind]
  split
  · next h => exact ⟨_, roundDown_eq_ok 16 hi (by decide), by omega⟩
  · split
    · next h => exact ⟨_, roundDown_eq_ok 8 ho (by decide), by omega⟩
    · split
      · have hc : outerCap * scale < Word.limit := by
          unfold outerCap
          omega
        refine ⟨_, Word.mul_eq_ok hc, ?_⟩
        unfold outerCap
        omega
      · exact ⟨defaultBlock, rfl, by decide⟩

theorem exists_estimateFor {usable : Nat → Nat} (hu : ∀ n, usable n < Word.limit) (t : ElementType)
    (dim clusters : Nat) (caches : Caches) :
    ∃ block, estimateFor usable t dim clusters caches = .ok block ∧ 8 ≤ block := by
  obtain ⟨inner, hi⟩ := exists_rowsBeside t caches.l1 dim clusters
  obtain ⟨outer, ho⟩ := exists_rowsBeside t caches.l2 dim clusters
  rw [estimateFor, Word.div_eq_ok t.size_pos, hi, ho]
  refine exists_estimate (Nat.lt_of_lt_of_le Nat.one_pos (Nat.le_max_right _ _)) ?_ (hu _) (hu _)
  cases t <;> decide

/-! ## Regrouping -/

/-- The number of whole blocks, rounded down to whole groups of them. -/
def wholeBlocks (rows block : Nat) : Nat := rows / block / groupSize * groupSize

theorem regroup_eq_ok {rows block : Nat} (hr : rows < Word.limit) (hb : 0 < block) :
    regroup rows block =
      .ok (if 0 < wholeBlocks rows block then rows / wholeBlocks rows block else block) := by
  have hq : rows / block < Word.limit := Nat.lt_of_le_of_lt (Nat.div_le_self rows block) hr
  have hw : wholeBlocks rows block < Word.limit :=
    Nat.lt_of_le_of_lt (Nat.div_mul_le_self _ _) hq
  have hs : 0 < groupSize := by decide
  simp only [regroup, Word.div_eq_ok hb, Word.div_eq_ok hs, bind, Except.bind]
  rw [Word.mul_eq_ok hw]
  show (if 0 < wholeBlocks rows block then Word.div rows (wholeBlocks rows block)
    else .ok block) = _
  split
  · next h => exact Word.div_eq_ok h
  · rfl

theorem exists_blockSizeFor {usable : Nat → Nat} (hu : ∀ n, usable n < Word.limit) {rows : Nat}
    (hr : rows < Word.limit) (t : ElementType) (dim clusters : Nat) (caches : Caches) :
    ∃ block, estimateFor usable t dim clusters caches = .ok block ∧ 8 ≤ block ∧
      blockSizeFor usable t rows dim clusters caches =
        .ok (if 0 < wholeBlocks rows block then rows / wholeBlocks rows block else block) := by
  obtain ⟨block, he, hb⟩ := exists_estimateFor hu t dim clusters caches
  refine ⟨block, he, hb, ?_⟩
  rw [blockSizeFor, he]
  exact regroup_eq_ok hr (Nat.lt_of_lt_of_le (by decide) hb)

theorem exists_blockSize {rows : Nat} (hr : rows < Word.limit) (t : ElementType)
    (dim clusters : Nat) (caches : Caches) :
    ∃ size, blockSize t rows dim clusters caches = .ok size := by
  obtain ⟨block, -, -, hs⟩ := exists_blockSizeFor fourFifths_lt hr t dim clusters caches
  exact ⟨_, hs⟩

end Offload.Blocking
