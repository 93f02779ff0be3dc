import Offload.Proofs.BlockSize

/-!
# Regrouped blocks

What regrouping makes of a block size. Blocks grow to less than twice their size, so that there are
whole groups of them; rows that are left over then need blocks of their own.
-/

namespace Offload.Blocking

variable {rows block count : Nat}

theorem wholeBlocks_pos_iff : 0 < wholeBlocks rows block ↔ groupSize ≤ rows / block := by
  have hs : 0 < groupSize := by decide
  rw [wholeBlocks, Nat.mul_pos_iff_of_pos_right hs, Nat.div_pos_iff]
  exact and_iff_right hs

theorem wholeBlocks_mul_le : wholeBlocks rows block * block ≤ rows :=
  calc wholeBlocks rows block * block
      ≤ rows / block * block := Nat.mul_le_mul_right block (Nat.div_mul_le_self _ _)
    _ ≤ rows := Nat.div_mul_le_self _ _

/-- Less than a group of blocks is cut off, and at least a group is left. -/
theorem lt_wholeBlocks_mul (hb : 0 < block) (h : groupSize ≤ rows / block) :
    rows < 2 * block * wholeBlocks rows block := by
  have hw : rows / block + 1 ≤ 2 * wholeBlocks rows block := by
    unfold wholeBlocks groupSize at *
    omega
  calc rows
      < (rows / block + 1) * block := Nat.lt_mul_of_div_lt (Nat.lt_succ_self _) hb
    _ ≤ 2 * wholeBlocks rows block * block := Nat.mul_le_mul_right block hw
    _ = 2 * block * wholeBlocks rows block := Nat.mul_right_comm _ _ _

theorem block_le_regrouped (h : groupSize ≤ rows / block) :
    block ≤ rows / wholeBlocks rows block := by
  rw [Nat.le_div_iff_mul_le (wholeBlocks_pos_iff.mpr h), Nat.mul_comm]
  exact wholeBlocks_mul_le

theorem regrouped_lt (hb : 0 < block) (h : groupSize ≤ rows / block) :
    rows / wholeBlocks rows block < 2 * block :=
  (Nat.div_lt_iff_lt_mul (wholeBlocks_pos_iff.mpr h)).mpr (lt_wholeBlocks_mul hb h)

/-- There is a block size, at least eight as the caches suggest it. Regrouping leaves it where the
rows fill less than a group of blocks; otherwise it grows, to less than twice the size, and the whole
groups of blocks still are among the rows. None of this depends on how the share of a cache is
rounded. -/
theorem blockSize_bounded {usable : Nat → Nat} (hu : ∀ n, usable n < Word.limit) {rows : Nat}
    (hr : rows < Word.limit) (t : ElementType) (dim clusters : Nat) (caches : Caches) :
    ∃ block size, estimateFor usable t dim clusters caches = .ok block ∧
      blockSizeFor usable t rows dim clusters caches = .ok size ∧ 8 ≤ block ∧
      (rows / block < 56 → size = block) ∧
      (56 ≤ rows / block →
        block ≤ size ∧ size < 2 * block ∧ size * (rows / block / 56 * 56) ≤ rows) := by
  obtain ⟨block, he, hb, hs⟩ := exists_blockSizeFor hu hr t dim clusters caches
  refine ⟨block, _, he, hs, hb, fun h => ?_, fun h => ?_⟩
  · exact if_neg fun hw => Nat.not_le.mpr h (wholeBlocks_pos_iff.mp hw)
  · rw [if_pos (wholeBlocks_pos_iff.mpr h)]
    exact ⟨block_le_regrouped h, regrouped_lt (Nat.lt_of_lt_of_le (by decide) hb) h,
      Nat.div_mul_le_self _ _⟩

/-- A hundred blocks, of which a whole group is left: they grow from 496 to 892 rows. -/
theorem blockSize_bounded_grown :
    (∀ n, fourFifths n < Word.limit) ∧ 50000 < Word.limit ∧
      estimateFor fourFifths .f64 10 10 {} = .ok 496 ∧
      blockSize .f64 50000 10 10 {} = .ok 892 ∧
      496 ≤ 892 ∧ 892 < 2 * 496 ∧ 892 * (50000 / 496 / 56 * 56) ≤ 50000 := by
  have he : estimateFor fourFifths .f64 10 10 {} = .ok 496 := rfl
  have hs : blockSize .f64 50000 10 10 {} = .ok 892 := rfl
  obtain ⟨block, size, he', hs', -, -, grown⟩ :=
    blockSize_bounded fourFifths_lt (show 50000 < Word.limit by decide) .f64 10 10 {}
  obtain rfl : block = 496 := Except.ok.inj (he'.symm.trans he)
  obtain rfl : size = 892 := Except.ok.inj (hs'.symm.trans hs)
  exact ⟨fourFifths_lt, by decide, he, hs, grown (by decide)⟩

/-! ## The number of blocks -/

/-- Blocks whose size is the rows by a number are that many, and those for the rest. -/
theorem blocks_of_quotient (h : 0 < rows / count) :
    (rows + rows / count - 1) / (rows / count) =
      count + (rows % count + rows / count - 1) / (rows / count) := by
  have hr : rows + rows / count - 1 = rows % count + rows / count - 1 + count * (rows / count) := by
    have := Nat.div_add_mod rows count
    omega
  rw [hr, Nat.add_mul_div_right _ _ h, Nat.add_comm]

/-- Where the rows fill a group of blocks, there are as many blocks as are left when their number is
rounded down to whole groups, and those for the rows that these leave over. So all of them are whole
groups if and only if the latter are, as when no rows are left over. -/
theorem regrouped_count_iff {usable : Nat → Nat} (hu : ∀ n, usable n < Word.limit) {rows : Nat}
    (hr : rows < Word.limit) (t : ElementType) (dim clusters : Nat) (caches : Caches) :
    ∃ block size, estimateFor usable t dim clusters caches = .ok block ∧
      blockSizeFor usable t rows dim clusters caches = .ok size ∧
      (56 ≤ rows / block →
        let whole := rows / block / 56 * 56
        let rest := rows % whole
        (rows + size - 1) / size = whole + (rest + size - 1) / size ∧
        (56 ∣ (rows + size - 1) / size ↔ 56 ∣ (rest + size - 1) / size) ∧
        (rest = 0 → 56 ∣ (rows + size - 1) / size)) := by
  obtain ⟨block, he, hb, hs⟩ := exists_blockSizeFor hu hr t dim clusters caches
  refine ⟨block, _, he, hs, fun h => ?_⟩
  have hp : 0 < block := Nat.lt_of_lt_of_le (by decide) hb
  rw [if_pos (wholeBlocks_pos_iff.mpr h)]
  intro whole rest
  have hsize : 0 < rows / whole := Nat.lt_of_lt_of_le hp (block_le_regrouped h)
  have hwhole : 56 ∣ whole := Nat.dvd_mul_left _ _
  have hcount := blocks_of_quotient hsize
  have hiff := hcount ▸ Nat.dvd_add_right hwhole
  refine ⟨hcount, hiff, fun hrest => hiff.mpr ?_⟩
  rw [show rows % whole = 0 from hrest, Nat.zero_add,
    Nat.div_eq_of_lt (Nat.sub_lt hsize Nat.one_pos)]
  exact Nat.dvd_zero _

/-- 448 blocks of eight rows leave 441 rows over, which are 56 blocks more. -/
theorem regrouped_count_iff_rest :
    (∀ n, fourFifths n < Word.limit) ∧ 4025 < Word.limit ∧
      estimateFor fourFifths .f64 1 1 ⟨0, 168⟩ = .ok 8 ∧
      blockSize .f64 4025 1 1 ⟨0, 168⟩ = .ok 8 ∧
      4025 / 8 / 56 * 56 = 448 ∧ 4025 % 448 = 441 ∧
      (4025 + 8 - 1) / 8 = 448 + (441 + 8 - 1) / 8 ∧ 56 ∣ (4025 + 8 - 1) / 8 := by
  have he : estimateFor fourFifths .f64 1 1 ⟨0, 168⟩ = .ok 8 := rfl
  have hs : blockSize .f64 4025 1 1 ⟨0, 168⟩ = .ok 8 := rfl
  obtain ⟨block, size, he', hs', counted⟩ :=
    regrouped_count_iff fourFifths_lt (show 4025 < Word.limit by decide) .f64 1 1 ⟨0, 168⟩
  obtain rfl : block = 8 := Except.ok.inj (he'.symm.trans he)
  obtain rfl : size = 8 := Except.ok.inj (hs'.symm.trans hs)
  obtain ⟨count, groups, -⟩ := counted (by decide)
  exact ⟨fourFifths_lt, by decide, he, hs, rfl, rfl, count, groups.mpr (by decide)⟩

/-- The rows fill 56 blocks, and the one row that is left over is a block too. -/
theorem left_over_row_is_block :
    estimateFor fourFifths .f64 1000 200 {} = .ok 96 ∧ 56 ≤ 5377 / 96 ∧
      blockSize .f64 5377 1000 200 {} = .ok 96 ∧ ¬ 56 ∣ (5377 + 96 - 1) / 96 :=
  ⟨rfl, by decide, rfl, by decide⟩

end Offload.Blocking
