import Offload.Proofs.Deed

/-!
# Device memory of the CPU

A buffer of `n` bytes is an array of `n` bytes that starts zeroed, whatever hosts and kernels do to
it. Typed buffers have room for their elements, so that these can always be written and read back.
-/

namespace Offload

namespace DeviceBuffer

theorem checkView_eq_ok {type : ElementType} {available length : Nat}
    (h : checkView type available length = .ok ()) :
    length * type.size < Word.limit ∧ length * type.size ≤ available := by
  unfold checkView at h
  split at h
  · cases h
  · next needed hn =>
      obtain ⟨hl, rfl⟩ := Word.mul?_eq_some_iff.mp hn
      split at h
      · cases h
      · next hle => exact ⟨hl, Nat.le_of_not_lt hle⟩

end DeviceBuffer

namespace Cpu

open Touch (OnArray AllOnArray)
open DeviceBuffer (allocate zeros ofElements ofHandle toElements)

variable {context : Context} {m m' : Machine carriers} {buffer : DeviceBuffer}

/-! ## Making buffers -/

/-- A typed buffer is made: of zeros, of elements, or over memory that is there. -/
inductive Made (context : Context) (m : Machine carriers) :
    DeviceBuffer → Machine carriers → Prop where
  | zeros {type length buffer m'}
      (made : zeros backend context type length m = (.ok buffer, m')) : Made context m buffer m'
  | ofElements {type elements buffer m'}
      (made : ofElements backend context type elements m = (.ok buffer, m')) :
      Made context m buffer m'
  | ofHandle {handle type length buffer m'}
      (made : ofHandle backend handle type length m = (.ok buffer, m')) : Made context m buffer m'

/-- There is memory for all elements. Their size is a number that does not wrap around. -/
def Fits (buffer : DeviceBuffer) (bytes : List UInt8) : Prop :=
  buffer.length * buffer.type.size < Word.limit ∧
    buffer.length * buffer.type.size ≤ bytes.length

theorem bytesOf_allocate {n : Nat} {handle : Handle}
    (h : allocate backend context n m = (.ok handle, m')) :
    bytesOf m' handle = some (List.replicate n 0) := by
  obtain ⟨a, ha, hb⟩ := has_of_allocate (fun _ => allocate_zeroed) h
  rw [bytesOf, ha, Option.map_some, hb]

theorem zeros_inv {type : ElementType} {length : Nat}
    (h : zeros backend context type length m = (.ok buffer, m')) :
    ∃ handle, buffer = ⟨handle, type, length⟩ ∧ length * type.size < Word.limit ∧
      bytesOf m' handle = some (List.replicate (length * type.size) 0) := by
  cases hm : Word.mul? length type.size with
  | none =>
      simp only [zeros, hm] at h
      cases h
  | some bytes =>
      obtain ⟨hl, rfl⟩ := Word.mul?_eq_some_iff.mp hm
      simp only [zeros, hm] at h
      obtain ⟨handle, m₁, ha, hr⟩ := Action.bind_eq_ok h
      cases hr
      exact ⟨handle, rfl, hl, bytesOf_allocate ha⟩

/-- Writing from the front is always possible where the bytes fit. -/
theorem writeBytes_of_fits (context : Context) {handle : Handle} {bytes data : List UInt8}
    (hm : bytesOf m handle = some bytes) (hd : data.length ≤ bytes.length) :
    ∃ m', DeviceBuffer.writeBytes backend context handle data m = (.ok (), m') ∧
      bytesOf m' handle = some (data ++ bytes.drop data.length) := by
  obtain ⟨a, ha, hb⟩ := Option.map_eq_some_iff.mp hm
  obtain ⟨a', hw, hb'⟩ := (backend_likeList context).write hb hd
  refine ⟨_, writeBytes_ok ha hw, ?_⟩
  rw [bytesOf, Store.get?_update, ha]
  exact congrArg some hb'

theorem ofElements_inv {type : ElementType} {elements : List type.Bits}
    (h : ofElements backend context type elements m = (.ok buffer, m')) :
    ∃ handle, buffer = ⟨handle, type, elements.length⟩ ∧
      elements.length * type.size < Word.limit ∧
      bytesOf m' handle = some (type.encodeAll elements) := by
  obtain ⟨made, m₁, hz, hr⟩ := Action.bind_eq_ok h
  obtain ⟨handle, rfl, hl, hb⟩ := zeros_inv hz
  cases elements with
  | nil =>
      cases hr
      refine ⟨handle, rfl, hl, ?_⟩
      rw [hb, List.length_nil, Nat.zero_mul]
      rfl
  | cons first rest =>
      have hn : (type.encodeAll (first :: rest)).length =
          (List.replicate ((first :: rest).length * type.size) (0 : UInt8)).length := by
        rw [ElementType.length_encodeAll, List.length_replicate]
      obtain ⟨m₂, hw, hb₂⟩ := writeBytes_of_fits context hb (Nat.le_of_eq hn)
      have he := (congrFun (if_neg Bool.false_ne_true) m₁).symm.trans hr
      simp only [hw] at he
      cases he
      refine ⟨handle, rfl, hl, ?_⟩
      rw [hb₂, hn, List.drop_length, List.append_nil]

theorem ofHandle_inv {handle : Handle} {type : ElementType} {length : Nat}
    (h : ofHandle backend handle type length m = (.ok buffer, m')) :
    buffer = ⟨handle, type, length⟩ ∧
      ∃ bytes, bytesOf m' handle = some bytes ∧ Fits buffer bytes := by
  obtain ⟨a, m₁, ha, hr⟩ := Action.bind_eq_ok h
  unfold DeviceBuffer.allocation at ha
  cases hg : m.buffers.get? handle with
  | none =>
      rw [hg] at ha
      cases ha
  | some a' =>
      rw [hg] at ha
      cases ha
      cases hc : DeviceBuffer.checkView type (backend.sizeOf a) length with
      | error e =>
          simp only [hc] at hr
          cases hr
      | ok u =>
          simp only [hc] at hr
          cases hr
          obtain ⟨hl, hle⟩ := DeviceBuffer.checkView_eq_ok hc
          refine ⟨rfl, a.memory.toList, by rw [bytesOf, hg]; rfl, hl, ?_⟩
          rw [Memory.length_toList]
          exact hle

/-- A buffer that was made has room for its elements. -/
theorem Made.fits (h : Made context m buffer m') :
    ∃ bytes, bytesOf m' buffer.handle = some bytes ∧ Fits buffer bytes := by
  cases h with
  | zeros made =>
      obtain ⟨handle, rfl, hl, hb⟩ := zeros_inv made
      exact ⟨_, hb, hl, Nat.le_of_eq List.length_replicate.symm⟩
  | ofElements made =>
      obtain ⟨handle, rfl, hl, hb⟩ := ofElements_inv made
      exact ⟨_, hb, hl, Nat.le_of_eq (ElementType.length_encodeAll _ _).symm⟩
  | ofHandle made =>
      obtain ⟨rfl, hb⟩ := ofHandle_inv made
      exact hb

/-! ## Using buffers -/

end Cpu

end Offload
