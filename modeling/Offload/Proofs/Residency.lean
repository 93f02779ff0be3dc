import Offload.Proofs.Regrouping

/-!
# Blocks that stay in a cache

A block whose size a cache suggests fits that cache beside the centroids, and leaves a fifth of the
room for rows. Regrouping makes blocks larger. With four groups of blocks or more, what is left is
enough for that; with fewer of them a block can come out larger than its cache.
-/

namespace Offload.Blocking

/-- A cache that a block size is taken from. -/
inductive Level where
  | inner
  | outer
  deriving DecidableEq

/-- Of a number for each cache, the one for this. -/
def Level.of (inner outer : Nat) : Level → Nat
  | .inner => inner
  | .outer => outer

theorem Level.of_map (f : Nat → Nat) {inner outer : Nat} (level : Level) :
    level.of (f inner) (f outer) = f (level.of inner outer) := by
  cases level <;> rfl

/-- So many rows and the centroid table fit a cache of `bytes` bytes. -/
def Resident (t : ElementType) (bytes dim clusters rows : Nat) : Prop :=
  rows * (dim + clusters) + clusters * dim ≤ bytes / t.size

instance (t : ElementType) (bytes dim clusters rows : Nat) :
    Decidable (Resident t bytes dim clusters rows) :=
  inferInstanceAs (Decidable (_ ≤ _))

/-- The cache that suggests a block size, if one does, by the rows that fit the inner and the outer
one. -/
def level? (scale inner outer : Nat) : Option Level :=
  if 256 * scale ≤ inner ∧ inner ≤ 512 * scale then some .inner
  else if 8 ≤ outer ∧ outer ≤ 512 * scale ∨ 512 * scale ≤ outer then some .outer
  else none

/-- The cache that suggests the block size for these centroids, if one does. -/
def levelFor? (t : ElementType) (dim clusters : Nat) (caches : Caches) :
    Except Panic (Option Level) := do
  let scale ← Word.div 8 t.size
  let inner ← rowsBeside t caches.l1 dim clusters
  let outer ← rowsBeside t caches.l2 dim clusters
  return level? (max scale 1) (fourFifths inner) (fourFifths outer)

/-! ## Four fifths -/

/-- Whole numbers that 52 digits can say are doubles. -/
theorem toDouble_eq_self {n : Nat} (h : n.log2 < 52) : toDouble n = n := by
  have hu : n.log2 - 52 = 0 := Nat.sub_eq_zero_of_le (Nat.le_of_lt h)
  simp [toDouble, hu, Nat.mod_one]

/-- Rounding to a double adds at most half a unit of the last digit. -/
theorem toDouble_le (n : Nat) : toDouble n ≤ n + n / Nat.pow 2 53 := by
  rcases Nat.lt_or_ge n.log2 52 with h | h
  · rw [toDouble_eq_self h]
    exact Nat.le_add_right _ _
  · have unit_le : Nat.pow 2 (n.log2 - 52) ≤ n / Nat.pow 2 52 := by
      have hn : n ≠ 0 := by
        rintro rfl
        simp at h
      rw [Nat.le_div_iff_mul_le (by decide)]
      calc Nat.pow 2 (n.log2 - 52) * Nat.pow 2 52
          = Nat.pow 2 (n.log2 - 52 + 52) := (Nat.pow_add 2 _ _).symm
        _ = Nat.pow 2 n.log2 := by rw [Nat.sub_add_cancel h]
        _ ≤ n := Nat.log2_self_le hn
    have double_le : 2 * toDouble n ≤ 2 * n + Nat.pow 2 (n.log2 - 52) := by
      have whole := Nat.div_add_mod' n (Nat.pow 2 (n.log2 - 52))
      simp only [toDouble]
      split
      · rw [Nat.add_mul]
        omega
      · omega
    have half : n / Nat.pow 2 53 = n / Nat.pow 2 52 / 2 := (Nat.div_div_eq_div_mul n _ _).symm
    omega

/-- The double for 0.8 is a little more than that, by too little to show in numbers of this size. -/
theorem fourFifths_le {n : Nat} (hn : n < Nat.pow 2 50) : 5 * fourFifths n ≤ 4 * n := by
  have exact : toDouble n = n := by
    refine toDouble_eq_self ?_
    rcases Nat.eq_zero_or_pos n with rfl | hp
    · decide
    · exact (Nat.log2_lt (Nat.ne_of_gt hp)).mpr (Nat.lt_trans hn (by decide))
  have hf : fourFifths n * Nat.pow 2 53 ≤ toDouble (n * fourFifthsDigits) := by
    rw [← Nat.le_div_iff_mul_le (by decide), fourFifths, exact]
    exact Nat.min_le_left _ _
  have hd := toDouble_le (n * fourFifthsDigits)
  rw [show Nat.pow 2 53 = 9007199254740992 from rfl] at hf hd
  rw [show Nat.pow 2 50 = 1125899906842624 from rfl] at hn
  unfold fourFifthsDigits at hf hd
  omega

/-- As far as blocks are sized by it, four fifths of a number are no more than that. -/
theorem min_fourFifths_le (n : Nat) : 5 * min (fourFifths n) 4096 ≤ 4 * n := by
  rcases Nat.lt_or_ge n (Nat.pow 2 50) with h | h
  · exact Nat.le_trans (Nat.mul_le_mul_left 5 (Nat.min_le_left _ _)) (fourFifths_le h)
  · rw [show Nat.pow 2 50 = 1125899906842624 from rfl] at h
    omega

/-! ## Room -/

section Room

variable {t : ElementType} {bytes dim clusters room : Nat}

theorem eq_of_rowsBeside (h : rowsBeside t bytes dim clusters = .ok room) (hp : 0 < room) :
    0 < clusters + dim ∧ room = (bytes / t.size - clusters * dim) / (clusters + dim) := by
  rw [rowsBeside, Word.div_eq_ok t.size_pos] at h
  simp only [bind, Except.bind] at h
  split at h
  · next hw =>
      have hd : 0 < clusters + dim := Nat.pos_of_ne_zero hw.2
      rw [Word.div_eq_ok hd] at h
      cases h
      cases hm : Word.mul? clusters dim with
      | none => simp [hm] at hp
      | some centroids =>
          obtain ⟨-, rfl⟩ := Word.mul?_eq_some_iff.mp hm
          exact ⟨hd, rfl⟩
  · cases h
    exact absurd hp (Nat.lt_irrefl 0)

/-- A cache that holds rows beside the centroids at all holds this many of them. -/
theorem resident_iff_le (h : rowsBeside t bytes dim clusters = .ok room) (hp : 0 < room)
    (rows : Nat) : Resident t bytes dim clusters rows ↔ rows ≤ room := by
  obtain ⟨hd, rfl⟩ := eq_of_rowsBeside h hp
  have free := Nat.sub_pos_iff_lt.mp (Nat.lt_of_lt_of_le hd (Nat.div_pos_iff.mp hp).2)
  rw [Nat.le_div_iff_mul_le hd, Nat.le_sub_iff_add_le (Nat.le_of_lt free), Nat.add_comm clusters]
  exact Iff.rfl

end Room

section Estimate

variable {scale inner outer : Nat}

/-- The block size that a cache suggests. -/
def Level.block (scale inner outer : Nat) : Level → Nat
  | .inner => inner / 16 * 16
  | .outer => if outer ≤ 512 * scale then outer / 8 * 8 else outerCap * scale

theorem estimate_eq_ok (hp : 0 < scale) (hs : scale ≤ 8) (hi : inner < Word.limit)
    (ho : outer < Word.limit) :
    estimate scale inner outer =
      .ok ((level? scale inner outer).elim defaultBlock (·.block scale inner outer)) := by
  have hl : Word.limit = 18446744073709551616 := rfl
  rw [estimate, Word.mul_eq_ok (show 256 * scale < Word.limit by omega),
    Word.mul_eq_ok (show 512 * scale < Word.limit by omega)]
  simp only [bind, Except.bind]
  rw [level?]
  by_cases hin : 256 * scale ≤ inner ∧ inner ≤ 512 * scale
  · rw [if_pos hin, if_pos hin]
    exact roundDown_eq_ok 16 hi (by decide)
  · rw [if_neg hin, if_neg hin]
    by_cases hout : 8 ≤ outer ∧ outer ≤ 512 * scale
    · rw [if_pos hout, if_pos (.inl hout), Option.elim_some, Level.block, if_pos hout.2]
      exact roundDown_eq_ok 8 ho (by decide)
    · rw [if_neg hout]
      by_cases hcap : 512 * scale ≤ outer
      · rw [if_pos hcap, if_pos (.inr hcap), Option.elim_some, Level.block, if_neg (by omega)]
        exact Word.mul_eq_ok (by unfold outerCap; omega)
      · rw [if_neg hcap, if_neg (not_or.mpr ⟨hout, hcap⟩)]
        rfl

/-- A block has no more rows than the cache suggests that it is taken from, and 4096 at most. -/
theorem Level.block_le {level : Level} (hp : 0 < scale) (hs : scale ≤ 8)
    (h : level? scale inner outer = some level) :
    level.block scale inner outer ≤ min (level.of inner outer) 4096 := by
  unfold level? at h
  split at h
  · next hin =>
      cases h
      simp only [block, of]
      omega
  · split at h
    · next hout =>
        cases h
        simp only [block, of, outerCap]
        split <;> omega
    · cases h

end Estimate

/-- A block that is taken from a cache leaves a fifth of the room for rows. -/
theorem exists_room {t : ElementType} {dim clusters block : Nat} {caches : Caches}
    (h : estimateFor fourFifths t dim clusters caches = .ok block) :
    ∃ source?, levelFor? t dim clusters caches = .ok source? ∧
      match source? with
      | some level => ∃ room,
          rowsBeside t (level.of caches.l1 caches.l2) dim clusters = .ok room ∧ 5 * block ≤ 4 * room
      | none => block = defaultBlock := by
  obtain ⟨inner, hi⟩ := exists_rowsBeside t caches.l1 dim clusters
  obtain ⟨outer, ho⟩ := exists_rowsBeside t caches.l2 dim clusters
  have hd : Word.div 8 t.size = .ok (8 / t.size) := Word.div_eq_ok t.size_pos
  have hs : max (8 / t.size) 1 ≤ 8 := by cases t <;> decide
  have hp : 0 < max (8 / t.size) 1 := Nat.lt_of_lt_of_le Nat.one_pos (Nat.le_max_right _ _)
  rw [estimateFor, hd, hi, ho] at h
  have he := estimate_eq_ok hp hs (fourFifths_lt inner) (fourFifths_lt outer)
  have hl : levelFor? t dim clusters caches =
      .ok (level? (max (8 / t.size) 1) (fourFifths inner) (fourFifths outer)) := by
    rw [levelFor?, hd, hi, ho]
    rfl
  refine ⟨_, hl, ?_⟩
  obtain rfl := Except.ok.inj (he.symm.trans h)
  cases hlevel : level? (max (8 / t.size) 1) (fourFifths inner) (fourFifths outer) with
  | none => rfl
  | some level =>
      have hrb : rowsBeside t (level.of caches.l1 caches.l2) dim clusters =
          .ok (level.of inner outer) := by
        cases level with
        | inner => exact hi
        | outer => exact ho
      have hb := Level.block_le hp hs hlevel
      rw [level.of_map fourFifths] at hb
      exact ⟨_, hrb, Nat.le_trans (Nat.mul_le_mul_left 5 hb) (min_fourFifths_le _)⟩

/-! ## Regrouped blocks -/

variable {rows block : Nat}

/-- From four groups of blocks on, blocks grow by less than a fourth. -/
theorem regrouped_mul_lt (hb : 0 < block) (h : 4 * groupSize ≤ rows / block) :
    4 * (rows / wholeBlocks rows block) < 5 * block := by
  have hw : 4 * (rows / block + 1) ≤ 5 * wholeBlocks rows block := by
    unfold wholeBlocks groupSize at *
    omega
  have hp : 0 < wholeBlocks rows block := by omega
  refine Nat.lt_of_mul_lt_mul_right (a := wholeBlocks rows block) ?_
  calc 4 * (rows / wholeBlocks rows block) * wholeBlocks rows block
      = 4 * (rows / wholeBlocks rows block * wholeBlocks rows block) := Nat.mul_assoc _ _ _
    _ ≤ 4 * rows := Nat.mul_le_mul_left 4 (Nat.div_mul_le_self _ _)
    _ < 4 * ((rows / block + 1) * block) :=
        Nat.mul_lt_mul_of_pos_left (Nat.lt_mul_of_div_lt (Nat.lt_succ_self _) hb) (by decide)
    _ = 4 * (rows / block + 1) * block := (Nat.mul_assoc _ _ _).symm
    _ ≤ 5 * wholeBlocks rows block * block := Nat.mul_le_mul_right block hw
    _ = 5 * block * wholeBlocks rows block := Nat.mul_right_comm _ _ _

/-- The block that a cache suggests fits it. So does the block that regrouping makes of it where the
rows fill less than one group of blocks, or at least four groups. In between it fits if and only if
there is room for as many rows as each of the blocks that are left gets. -/
theorem resident_iff {rows : Nat} (hr : rows < Word.limit) (t : ElementType) (dim clusters : Nat)
    (caches : Caches) :
    ∃ block size source?, estimateFor fourFifths t dim clusters caches = .ok block ∧
      blockSize t rows dim clusters caches = .ok size ∧
      levelFor? t dim clusters caches = .ok source? ∧ (source? = none → block = 96) ∧
      ∀ level, source? = some level →
        let bytes := level.of caches.l1 caches.l2
        Resident t bytes dim clusters block ∧
        (rows / block < 56 ∨ 224 ≤ rows / block → Resident t bytes dim clusters size) ∧
        (56 ≤ rows / block → (Resident t bytes dim clusters size ↔
          rows / (rows / block / 56 * 56) ≤
            (bytes / t.size - clusters * dim) / (clusters + dim))) := by
  obtain ⟨block, he, hb, hs⟩ := exists_blockSizeFor fourFifths_lt hr t dim clusters caches
  obtain ⟨source?, hl, hroom⟩ := exists_room he
  have hp : 0 < block := Nat.lt_of_lt_of_le (by decide) hb
  refine ⟨block, _, source?, he, hs, hl, ?_, ?_⟩
  · rintro rfl
    exact hroom
  · rintro level rfl
    obtain ⟨room, hrb, hle⟩ := hroom
    have hpos : 0 < room := by omega
    have fits := resident_iff_le hrb hpos
    refine ⟨(fits block).mpr (by omega), fun h => ?_, fun h => ?_⟩
    · refine (fits _).mpr ?_
      split
      · next hw =>
          have many : 4 * groupSize ≤ rows / block :=
            h.resolve_left (Nat.not_lt_of_le (wholeBlocks_pos_iff.mp hw))
          have := regrouped_mul_lt hp many
          omega
      · omega
    · rw [if_pos (wholeBlocks_pos_iff.mpr h), fits, (eq_of_rowsBeside hrb hpos).2]
      exact Iff.rfl

/-- Ten groups of blocks are cut down to eight, and the blocks grow from 400 to 446 rows. -/
theorem resident_iff_grown :
    200000 < Word.limit ∧ estimateFor fourFifths .f64 7 1 {} = .ok 400 ∧
      blockSize .f64 200000 7 1 {} = .ok 446 ∧ levelFor? .f64 7 1 {} = .ok (some .inner) ∧
      Resident .f64 (32 * 1024) 7 1 400 ∧ 224 ≤ 200000 / 400 ∧
      Resident .f64 (32 * 1024) 7 1 446 := by
  have he : estimateFor fourFifths .f64 7 1 {} = .ok 400 := rfl
  have hs : blockSize .f64 200000 7 1 {} = .ok 446 := rfl
  have hl : levelFor? .f64 7 1 {} = .ok (some .inner) := rfl
  obtain ⟨block, size, source?, he', hs', hl', -, fits⟩ :=
    resident_iff (show 200000 < Word.limit by decide) .f64 7 1 {}
  obtain rfl : block = 400 := Except.ok.inj (he'.symm.trans he)
  obtain rfl : size = 446 := Except.ok.inj (hs'.symm.trans hs)
  obtain rfl : source? = some .inner := Except.ok.inj (hl'.symm.trans hl)
  obtain ⟨chosen, many, -⟩ := fits .inner rfl
  exact ⟨by decide, he, hs, hl, chosen, by decide, many (.inr (by decide))⟩

/-- Of 111 blocks 56 are left, almost twice as large, and the outer cache has room for 605 rows. -/
theorem regrouped_block_leaves_cache :
    estimateFor fourFifths .f64 100 100 {} = .ok 480 ∧
      levelFor? .f64 100 100 {} = .ok (some .outer) ∧
      blockSize .f64 53300 100 100 {} = .ok 951 ∧ ¬ Resident .f64 (1024 * 1024) 100 100 951 :=
  ⟨rfl, rfl, rfl, by decide⟩

end Offload.Blocking
