import Offload.Cpu.Centroid
import Offload.Proofs.AxisOrder

/-!
# Labels block by block

Where the tables are as long as the sizes say, every row gets its label, whatever the size of the
blocks. No product of sizes overflows on the way, and no slice leaves its table.
-/

namespace Offload.Cpu.Centroid

/-! ## Blocks -/

/-- Blocks of `size` rows, one after another, have the rows in order. -/
theorem flatMap_blocks (rows size count : Nat) :
    ((List.range count).flatMap fun index =>
      List.range' (index * size) (min size (rows - index * size))) =
      List.range (min (count * size) rows) := by
  induction count with
  | zero => simp
  | succ count ih =>
      rw [List.range_succ, List.flatMap_append, ih, List.flatMap_singleton, List.range_eq_range',
        List.range_eq_range']
      rcases Nat.le_total (count * size) rows with h | h
      · have hc : min ((count + 1) * size) rows =
            count * size + min size (rows - count * size) := by
          rw [Nat.add_mul]
          omega
        rw [Nat.min_eq_left h, hc]
        have ha := @List.range'_append_1 0 (count * size) (min size (rows - count * size))
        rwa [Nat.zero_add] at ha
      -- A block that would start past the last row has no row.
      · have hc : rows ≤ (count + 1) * size := Nat.le_trans h (Nat.mul_le_mul_right _ (Nat.le_succ _))
        rw [Nat.min_eq_right h, Nat.min_eq_right hc, Nat.sub_eq_zero_of_le h]
        simp

theorem rows_le_blocks (rows : Nat) {size : Nat} (hs : 0 < size) :
    rows ≤ (rows + size - 1) / size * size := by
  have hd := Nat.div_add_mod' (rows + size - 1) size
  have hm := Nat.mod_lt (rows + size - 1) hs
  omega

/-- Every block starts at a row. -/
theorem start_lt_rows {rows size index : Nat} (h : index < (rows + size - 1) / size) :
    index * size < rows := by
  have hd := Nat.div_mul_le_self (rows + size - 1) size
  have hi : (index + 1) * size ≤ (rows + size - 1) / size * size := Nat.mul_le_mul_right _ h
  rw [Nat.add_mul] at hi
  have hs : 0 < size := by
    refine Nat.pos_of_ne_zero fun hz => ?_
    rw [hz, Nat.div_zero] at h
    exact Nat.not_lt_zero _ h
  omega

namespace Progress

variable {α β : Type}

theorem collect_ok {f : α → Progress β} {g : α → List β} {l : List α}
    (h : ∀ a ∈ l, f a = ⟨g a, none⟩) : collect f l = ⟨l.flatMap g, none⟩ := by
  induction l with
  | nil => rfl
  | cons a rest ih =>
      obtain ⟨ha, hr⟩ := List.forall_mem_cons.mp h
      rw [collect, ha, ih hr]
      rfl

end Progress

/-! ## Rows -/

variable {F : Type}

theorem slice_ok {items : Array F} {start count : Nat} (h : start + count ≤ items.size) :
    slice items start count = .ok (items.extract start (start + count)).toList := by
  rw [slice, if_neg (by omega), if_neg (by omega)]

/-- The row at an index, as far as the table goes. -/
def Table.rowAt (t : Table F) (index : Nat) : List F :=
  (t.data.extract (index * t.dim) (index * t.dim + t.dim)).toList

/-- A table has `rows` rows, and its size is a word. -/
structure Table.Has (t : Table F) (rows : Nat) : Prop where
  word : rows * t.dim < Word.limit
  length : rows * t.dim ≤ t.data.size

theorem Table.Has.row_eq {t : Table F} {rows index : Nat} (h : t.Has rows) (hi : index < rows) :
    t.row index = .ok (t.rowAt index) := by
  have hd : index * t.dim + t.dim ≤ rows * t.dim := by
    rw [← Nat.succ_mul]
    exact Nat.mul_le_mul_right _ hi
  have hw : index * t.dim < Word.limit := by
    have := h.word
    omega
  rw [Table.row, Word.mul_eq_ok hw]
  exact slice_ok (Nat.le_trans hd h.length)

/-! ## Labels -/

variable (m : Metric F) (data centroids : Table F) (clusters : Nat)

/-- The label of a row, with all of the tables in reach. -/
def labelAt (row : Nat) : BitVec 32 :=
  label (nearest? m (data.rowAt row)
    ((List.range clusters).map fun c => (c, centroids.rowAt c)))

/-- What a labelling of `rows` rows needs. -/
structure Ready (rows : Nat) : Prop where
  word : rows < Word.limit
  data : data.Has rows
  centroids : centroids.Has clusters

variable {data centroids clusters} {rows : Nat}

theorem assignRow_eq (h : Ready data centroids clusters rows) {first offset : Nat}
    (hr : first + offset < rows) :
    assignRow m data centroids clusters first offset =
      .ok (labelAt m data centroids clusters (first + offset)) := by
  have hw : first + offset < Word.limit := Nat.lt_trans hr h.word
  have hc : ((List.range clusters).mapM fun c => do return (c, ← centroids.row c)) =
      .ok ((List.range clusters).map fun c => (c, centroids.rowAt c)) :=
    mapM_eq_ok fun c hc => by rw [h.centroids.row_eq (List.mem_range.mp hc)]; rfl
  rw [assignRow, Word.add_eq_ok hw]
  change (data.row (first + offset) >>= _) = _
  rw [h.data.row_eq hr, hc]
  rfl

theorem assignRows_eq (h : Ready data centroids clusters rows) {first count : Nat}
    (hr : first + count ≤ rows) :
    assignRows m data centroids clusters first count =
      ⟨(List.range' first count).map (labelAt m data centroids clusters), none⟩ := by
  have hf : ∀ offset ∈ List.range count,
      Progress.single (assignRow m data centroids clusters first offset) =
        ⟨[labelAt m data centroids clusters (first + offset)], none⟩ := by
    intro offset ho
    rw [assignRow_eq m h (by have := List.mem_range.mp ho; omega)]
    rfl
  rw [assignRows, Progress.collect_ok hf, List.range'_eq_map_range, List.map_map]
  exact congrArg (Progress.mk · none) List.map_eq_flatMap.symm

theorem assignBlock_eq (h : Ready data centroids clusters rows) {size index : Nat}
    (hi : index * size < rows) :
    assignBlock m data centroids clusters rows size index =
      ⟨(List.range' (index * size) (min size (rows - index * size))).map
        (labelAt m data centroids clusters), none⟩ := by
  rw [assignBlock, Word.mul_eq_ok (Nat.lt_trans hi h.word)]
  exact assignRows_eq m h (by omega)

/-- Blocks of any size give every row its label. -/
theorem assignBlocks_eq (h : Ready data centroids clusters rows) {size : Nat} (hs : 0 < size) :
    assignBlocks m data centroids clusters rows size =
      ⟨(List.range rows).map (labelAt m data centroids clusters), none⟩ := by
  rw [assignBlocks, Progress.collect_ok fun index hi =>
    assignBlock_eq m h (start_lt_rows (List.mem_range.mp hi))]
  rw [← List.map_flatMap, flatMap_blocks, Nat.min_eq_right (rows_le_blocks rows hs)]

/-- The labels of all rows in one pass. -/
theorem assignRows_all (h : Ready data centroids clusters rows) :
    assignRows m data centroids clusters 0 rows =
      ⟨(List.range rows).map (labelAt m data centroids clusters), none⟩ := by
  rw [assignRows_eq m h (by omega), List.range_eq_range']

end Offload.Cpu.Centroid
