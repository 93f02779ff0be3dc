import Offload.Bytes

/-!
# Memory

A run of bytes that starts zeroed. Only the part written so far is kept, all bytes after it are
zero; `Memory.toList` is the whole run, and every operation is told by what it does to that.
-/

namespace Offload

/-- `size` bytes, of which those after `written` are zero. -/
structure Memory where
  size : Nat
  written : List UInt8
  written_le : written.length ≤ size

namespace Memory

def zeroed (size : Nat) : Memory := ⟨size, [], Nat.zero_le _⟩

/-- `count` bytes from `offset` on; bytes past the end read as zero. -/
def read (m : Memory) (offset count : Nat) : List UInt8 :=
  let known := (m.written.drop offset).take count
  known ++ List.replicate (count - known.length) 0

def toList (m : Memory) : List UInt8 :=
  m.read 0 m.size

/-- Replaces the first bytes and keeps the rest; what does not fit is dropped. -/
def write (m : Memory) (data : List UInt8) : Memory :=
  let data := data.take m.size
  { size := m.size
    written := data ++ m.written.drop data.length
    written_le := by
      have := m.written_le
      simp only [List.length_append, List.length_drop, data, List.length_take]
      omega }

/-- The whole elements the memory holds. -/
def elements (m : Memory) (t : ElementType) : List t.Bits :=
  t.elements m.toList

/-- Replaces the first elements and keeps the rest; elements past the last whole one are dropped. -/
def store (m : Memory) (t : ElementType) (values : List t.Bits) : Memory :=
  m.write (t.encodeAll (values.take (m.size / t.size)))

theorem toList_eq (m : Memory) :
    m.toList = m.written ++ List.replicate (m.size - m.written.length) 0 := by
  simp [toList, read, List.take_of_length_le m.written_le]

@[simp]
theorem length_toList (m : Memory) : m.toList.length = m.size := by
  have := m.written_le
  simp [toList_eq]
  omega

@[simp]
theorem toList_zeroed (size : Nat) : (zeroed size).toList = List.replicate size 0 := by
  simp [toList_eq, zeroed]

/-- A write of bytes that fit replaces the first bytes and keeps the others. -/
theorem toList_write {m : Memory} {data : List UInt8} (h : data.length ≤ m.size) :
    (m.write data).toList = data ++ m.toList.drop data.length := by
  have hw := m.written_le
  simp only [toList_eq, write, List.take_of_length_le h, List.append_assoc, List.drop_append,
    List.drop_replicate, List.length_append, List.length_drop]
  congr 3
  omega

/-- Bytes past the elements that are stored stay as they are. -/
theorem drop_store_of_le (m : Memory) {t : ElementType} {values : List t.Bits} {count : Nat}
    (h : (values.take (m.size / t.size)).length * t.size ≤ count) :
    (m.store t values).toList.drop count = m.toList.drop count := by
  rw [← t.length_encodeAll] at h
  have hs : (t.encodeAll (values.take (m.size / t.size))).length ≤ m.size := by
    rw [t.length_encodeAll]
    exact Nat.le_trans (Nat.mul_le_mul_right _ (List.length_take_le _ _)) (Nat.div_mul_le_self _ _)
  rw [store, toList_write hs, List.drop_append, List.drop_eq_nil_of_le h, List.nil_append,
    List.drop_drop, Nat.add_sub_cancel' h]

/-- Elements that are stored are read back, with the others behind them. -/
theorem elements_store (m : Memory) {t : ElementType} {values : List t.Bits}
    (h : values.length ≤ m.size / t.size) :
    (m.store t values).elements t = values ++ (m.elements t).drop values.length := by
  have hs : (t.encodeAll values).length ≤ m.size := by
    rw [t.length_encodeAll]
    exact Nat.le_trans (Nat.mul_le_mul_right _ h) (Nat.div_mul_le_self _ _)
  rw [elements, store, List.take_of_length_le h, toList_write hs, t.elements_encodeAll_append,
    t.length_encodeAll, t.elements_drop]
  rfl

end Memory

end Offload
