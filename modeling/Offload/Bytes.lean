import Offload.Element

/-!
# Little-endian bytes

A number as its bytes, least significant first, and the elements that a run of bytes holds.
-/

namespace Offload

/-- The lowest `n` bytes of `value`, least significant first. -/
def littleEndian : Nat → Nat → List UInt8
  | 0, _ => []
  | n + 1, value => UInt8.ofNat value :: littleEndian n (value / 256)

/-- The number whose bytes, least significant first, are given. -/
def ofLittleEndian : List UInt8 → Nat
  | [] => 0
  | b :: rest => b.toNat + 256 * ofLittleEndian rest

@[simp]
theorem length_littleEndian (n value : Nat) : (littleEndian n value).length = n := by
  induction n generalizing value with
  | zero => rfl
  | succ n ih => simp [littleEndian, ih]

theorem ofLittleEndian_littleEndian (n value : Nat) :
    ofLittleEndian (littleEndian n value) = value % Nat.pow 256 n := by
  induction n generalizing value with
  | zero => simp [littleEndian, ofLittleEndian, Nat.mod_one]
  | succ n ih =>
    have hp : Nat.pow 256 (n + 1) = 256 * Nat.pow 256 n := Nat.mul_comm _ _
    rw [littleEndian, ofLittleEndian, ih, hp, Nat.mod_mul]
    simp

namespace ElementType

/-- Bytes of one element. -/
def encode (t : ElementType) (bits : t.Bits) : List UInt8 :=
  littleEndian t.size bits.toNat

/-- Element held by `t.size` bytes. -/
def decode (t : ElementType) (bytes : List UInt8) : t.Bits :=
  BitVec.ofNat _ (ofLittleEndian bytes)

@[simp]
theorem length_encode (t : ElementType) (bits : t.Bits) : (t.encode bits).length = t.size := by
  simp [encode]

theorem decode_encode (t : ElementType) (bits : t.Bits) : t.decode (t.encode bits) = bits := by
  apply BitVec.eq_of_toNat_eq
  have h : Nat.pow 256 t.size = 2 ^ (8 * t.size) := by rw [Nat.pow_mul]; rfl
  rw [decode, encode, ofLittleEndian_littleEndian, h]
  simp [Nat.mod_eq_of_lt bits.isLt]

/-- The whole elements in `bytes`, in order; bytes after the last whole one are left over. -/
def elements (t : ElementType) (bytes : List UInt8) : List t.Bits :=
  let head := bytes.take t.size
  if head.length = t.size then t.decode head :: t.elements (bytes.drop t.size) else []
termination_by bytes.length
decreasing_by
  have := t.size_pos
  grind [List.length_take, List.length_drop]

theorem length_elements (t : ElementType) (bytes : List UInt8) :
    (t.elements bytes).length = bytes.length / t.size := by
  have hs := t.size_pos
  induction bytes using elements.induct t with
  | case1 bytes head hl ih =>
      have hle : t.size ≤ bytes.length := by
        rw [List.length_take] at hl
        omega
      rw [elements, if_pos hl, List.length_cons, ih, List.length_drop, ← Nat.sub_add_cancel hle,
        Nat.add_div_right _ hs, Nat.add_sub_cancel]
  | case2 bytes head hl =>
      have hlt : bytes.length < t.size := by
        rw [List.length_take] at hl
        omega
      rw [elements, if_neg hl, Nat.div_eq_of_lt hlt]
      rfl

/-- Bytes of a list of elements. -/
def encodeAll (t : ElementType) (values : List t.Bits) : List UInt8 :=
  values.flatMap t.encode

theorem length_encodeAll (t : ElementType) (values : List t.Bits) :
    (t.encodeAll values).length = values.length * t.size := by
  induction values with
  | nil => simp [encodeAll]
  | cons v rest ih => simp_all [encodeAll, Nat.add_mul, Nat.add_comm]

/-- Elements that were written are read back from the front. -/
theorem elements_encodeAll_append (t : ElementType) (values : List t.Bits) (rest : List UInt8) :
    t.elements (t.encodeAll values ++ rest) = values ++ t.elements rest := by
  induction values with
  | nil => rfl
  | cons v later ih =>
    have h : t.encodeAll (v :: later) ++ rest = t.encode v ++ (t.encodeAll later ++ rest) :=
      List.append_assoc _ _ _
    rw [h, elements]
    simp [ih, decode_encode]

theorem elements_eq_nil {t : ElementType} {bytes : List UInt8} (h : bytes.length < t.size) :
    t.elements bytes = [] :=
  List.eq_nil_of_length_eq_zero (by rw [length_elements, Nat.div_eq_of_lt h])

theorem elements_drop (t : ElementType) (bytes : List UInt8) (count : Nat) :
    t.elements (bytes.drop (count * t.size)) = (t.elements bytes).drop count := by
  induction count generalizing bytes with
  | zero => simp
  | succ count ih =>
    rcases Nat.lt_or_ge bytes.length t.size with h | h
    · have hd : (bytes.drop ((count + 1) * t.size)).length < t.size := by
        rw [List.length_drop]
        omega
      rw [elements_eq_nil h, elements_eq_nil hd, List.drop_nil]
    · have ht : (bytes.take t.size).length = t.size := by
        rw [List.length_take]
        omega
      rw [elements.eq_def t bytes, if_pos ht, List.drop_succ_cons, ← ih, List.drop_drop,
        Nat.add_mul, Nat.one_mul, Nat.add_comm]

end ElementType

end Offload
