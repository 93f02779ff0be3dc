import Offload.Proofs.Builtins
import Offload.Proofs.ByteCall

/-!
# Touches of a buffer

What is done to a buffer of the CPU device, as something that is done to an array of bytes. A kernel
sees the whole elements of one type that are in the bytes, and changes no byte behind them.
-/

namespace Offload

/-! ## Elements in bytes -/

theorem ofLittleEndian_lt (bytes : List UInt8) :
    ofLittleEndian bytes < Nat.pow 256 bytes.length := by
  induction bytes with
  | nil => exact Nat.one_pos
  | cons b rest ih =>
      have hb : b.toNat < 256 := b.toNat_lt
      have hp : Nat.pow 256 (rest.length + 1) = 256 * Nat.pow 256 rest.length := Nat.mul_comm _ _
      rw [ofLittleEndian, List.length_cons, hp]
      omega

namespace ElementType

variable {t : ElementType} {bytes : List UInt8}

/-- The number that element `i` is in little-endian bytes. -/
def valueAt (t : ElementType) (bytes : List UInt8) (i : Nat) : Nat :=
  ofLittleEndian ((bytes.drop (i * t.size)).take t.size)

theorem toNat_decode (h : bytes.length = t.size) :
    (t.decode bytes).toNat = ofLittleEndian bytes := by
  have hp : Nat.pow 256 t.size = 2 ^ (8 * t.size) := by rw [Nat.pow_mul]; rfl
  have hl := ofLittleEndian_lt bytes
  rw [h, hp] at hl
  rw [decode, BitVec.toNat_ofNat, Nat.mod_eq_of_lt hl]

/-- A whole element is the value of its own bytes. -/
theorem toNat_elements {i : Nat} (hi : i < (t.elements bytes).length) :
    (t.elements bytes)[i].toNat = t.valueAt bytes i := by
  -- It is the first element of what is left behind those in front of it.
  have hd : t.elements (bytes.drop (i * t.size)) = (t.elements bytes).drop i :=
    t.elements_drop bytes i
  rw [List.drop_eq_getElem_cons hi, elements] at hd
  split at hd
  · next hl =>
      obtain ⟨he, -⟩ := List.cons.inj hd
      rw [← he, toNat_decode hl]
      rfl
  · cases hd

theorem valueAt_encodeAll {values : List t.Bits} {rest : List UInt8} {i : Nat}
    (hi : i < values.length) : t.valueAt (t.encodeAll values ++ rest) i = values[i].toNat := by
  have he := t.elements_encodeAll_append values rest
  have hl : i < (t.elements (t.encodeAll values ++ rest)).length := by
    rw [he, List.length_append]
    omega
  rw [← toNat_elements hl]
  simp only [he, List.getElem_append_left hi]

end ElementType

/-! ## Touches -/

/-- What is done to a buffer, and what is told of it. -/
inductive Touch where
  | host (call : ByteCall) (answer : ByteAnswer)
  /-- A kernel is given the buffer as elements. -/
  | view (type : ElementType) (elements : List type.Bits)
  /-- A kernel replaces the first elements. -/
  | store (type : ElementType) (values : List type.Bits)

namespace Touch

/-- What a touch tells of an array of bytes, and what it makes of it. -/
inductive OnArray : List UInt8 → Touch → List UInt8 → Prop where
  | read {bytes count} (fits : count ≤ bytes.length) :
      OnArray bytes (.host (.read count) (.bytes (bytes.take count))) bytes
  | readPast {bytes count} (past : bytes.length < count) :
      OnArray bytes (.host (.read count) .refused) bytes
  | write {bytes data} (fits : data.length ≤ bytes.length) :
      OnArray bytes (.host (.write data) .done) (data ++ bytes.drop data.length)
  | writePast {bytes data} (past : bytes.length < data.length) :
      OnArray bytes (.host (.write data) .refused) bytes
  | clone {bytes} : OnArray bytes (.host .clone .done) bytes
  | view {bytes t elements} (whole : elements.length = bytes.length / t.size)
      (values : ∀ i (hi : i < elements.length), elements[i].toNat = t.valueAt bytes i) :
      OnArray bytes (.view t elements) bytes
  | store {bytes t values after} (size : after.length = bytes.length)
      (stored : ∀ i (hi : i < values.length), i < bytes.length / t.size →
        t.valueAt after i = values[i].toNat)
      (kept : after.drop (min values.length (bytes.length / t.size) * t.size) =
        bytes.drop (min values.length (bytes.length / t.size) * t.size)) :
      OnArray bytes (.store t values) after

/-- Touches one after another. -/
inductive AllOnArray : List UInt8 → List Touch → List UInt8 → Prop where
  | nil (bytes : List UInt8) : AllOnArray bytes [] bytes
  | cons {bytes next after touch touches} (first : OnArray bytes touch next)
      (rest : AllOnArray next touches after) : AllOnArray bytes (touch :: touches) after

variable {bytes next after : List UInt8} {touch : Touch} {touches more : List Touch}

theorem OnArray.length_eq (h : OnArray bytes touch after) : after.length = bytes.length := by
  cases h with
  | read _ => rfl
  | readPast _ => rfl
  | write fits =>
      rw [List.length_append, List.length_drop]
      omega
  | writePast _ => rfl
  | clone => rfl
  | view _ _ => rfl
  | store size _ _ => exact size

namespace AllOnArray

theorem one (h : OnArray bytes touch after) : AllOnArray bytes [touch] after :=
  .cons h (.nil after)

theorem append (h : AllOnArray bytes touches next) (h' : AllOnArray next more after) :
    AllOnArray bytes (touches ++ more) after := by
  induction h with
  | nil bytes => exact h'
  | cons first _ ih => exact .cons first (ih h')

theorem length_eq (h : AllOnArray bytes touches after) : after.length = bytes.length := by
  induction h with
  | nil bytes => rfl
  | cons first _ ih => exact ih.trans first.length_eq

end AllOnArray

theorem OnArray.elements (t : ElementType) (bytes : List UInt8) :
    OnArray bytes (.view t (t.elements bytes)) bytes :=
  .view (t.length_elements bytes) fun _ hi => ElementType.toNat_elements hi

theorem OnArray.stores (m : Memory) (t : ElementType) (values : List t.Bits) :
    OnArray m.toList (.store t values) (m.store t values).toList := by
  have hs : (t.encodeAll (values.take (m.size / t.size))).length ≤ m.size := by
    rw [t.length_encodeAll]
    exact Nat.le_trans (Nat.mul_le_mul_right _ (List.length_take_le _ _)) (Nat.div_mul_le_self _ _)
  refine .store ?_ (fun i hi hw => ?_) ?_
  · rw [Memory.length_toList, Memory.length_toList]
    rfl
  · rw [Memory.length_toList] at hw
    have ht : i < (values.take (m.size / t.size)).length := by
      rw [List.length_take]
      omega
    rw [Memory.store, Memory.toList_write hs, ElementType.valueAt_encodeAll ht, List.getElem_take]
  · rw [Memory.length_toList]
    refine Memory.drop_store_of_le m (Nat.mul_le_mul_right _ ?_)
    rw [List.length_take]
    omega

end Touch

namespace Cpu

open Touch (OnArray AllOnArray)

/-! ## Kernels -/

namespace Slot

/-- The buffer behind a slot. -/
def handle? : Slot → Option Handle
  | .shared handle _ | .exclusive handle _ => some handle
  | .scalar _ => none

/-- What the buffer `h` notices of a request that a slot has answered. -/
def viewed (h : Handle) (slot : Slot) : (r : Request) → Except Fault r.Answer → List Touch
  | .input t, .ok elements => if slot.handle? = some h then [.view t elements] else []
  | .output t, .ok granted => if slot.handle? = some h then [.view t granted.elements] else []
  | _, _ => []

/-- What the buffer `h` notices of elements that are stored. -/
def stored (h : Handle) (t : ElementType) (values : List t.Bits) : Slot → List Touch
  | .exclusive handle type => if handle = h ∧ type = t then [.store t values] else []
  | _ => []

end Slot

/-- What the buffer `h` notices of a kernel. -/
def Procedure.touches {α : Type} (h : Handle) (slots : List Slot) :
    Procedure α → Nat → Machine carriers → List Touch
  | .done _, _, _ => []
  | .fail _, _, _ => []
  | .unwind _, _, _ => []
  | .ask request next, cursor, m =>
    match slots[cursor]? with
    | some slot =>
      let answer := slot.answer m.buffers cursor request
      slot.viewed h request answer ++ (next answer).touches h slots (cursor + 1) m
    | none => (next (.error (.missingArgument cursor slots.length))).touches h slots cursor m
  | .store index t values next, cursor, m =>
    match slots[index]? with
    | some slot =>
      slot.stored h t values ++
        next.touches h slots cursor { m with buffers := slot.store m.buffers t values }
    | none => next.touches h slots cursor m
  | .restart next, _, m => next.touches h slots 0 m
  | .record entry next, cursor, m => next.touches h slots cursor (m.record entry)
  | .references name next, cursor, m => (next (watchedRefs? m name)).touches h slots cursor m

/-- What the buffer `h` notices of a launch. -/
def launchTouches (h : Handle) (e : Executable) (shape : LaunchShape)
    (arguments : List BoundArgument) (m : Machine carriers) : List Touch :=
  match Invocation.bind Handle.index arguments with
  | .error _ => []
  | .ok bound =>
    let first := Stage.first e shape bound m
    first.rest.touches h bound.slots first.cursor first.machine

section Kernels

variable {m : Machine carriers} {h : Handle} {bytes : List UInt8}

namespace Slot

variable {s : Store Allocation} {index : Nat} {t : ElementType} {slot : Slot}

theorem elementsOf_of_input {elements : List t.Bits} (hs : slot.handle? = some h)
    (ha : slot.answer s index (.input t) = .ok elements) : elementsOf s h t = elements := by
  cases slot with
  | shared handle type =>
      cases hs
      exact (checkType_eq_ok_iff.mp ha).2
  | exclusive handle type =>
      cases hs
      exact (checkType_eq_ok_iff.mp ha).2
  | scalar value => cases hs

theorem elementsOf_of_output {g : Granted t} (hs : slot.handle? = some h)
    (ha : slot.answer s index (.output t) = .ok g) : elementsOf s h t = g.elements := by
  cases slot with
  | shared handle type => cases ha
  | exclusive handle type =>
      cases hs
      obtain ⟨-, rfl⟩ := checkType_eq_ok_iff.mp ha
      rfl
  | scalar value => cases hs

/-- A request gives the elements that are in the bytes. -/
theorem viewed_onArray (hm : bytesOf m h = some bytes) (slot : Slot) (index : Nat) (r : Request) :
    AllOnArray bytes (slot.viewed h r (slot.answer m.buffers index r)) bytes := by
  obtain ⟨a, ha, rfl⟩ := Option.map_eq_some_iff.mp hm
  have he (t : ElementType) : elementsOf m.buffers h t = t.elements a.memory.toList := by
    rw [elementsOf, ha]
    rfl
  cases r with
  | input t =>
      cases hx : slot.answer m.buffers index (.input t) with
      | error f => exact .nil _
      | ok elements =>
          simp only [viewed]
          split
          · next hs =>
              rw [← elementsOf_of_input hs hx, he]
              exact .one (.elements t _)
          · exact .nil _
  | output t =>
      cases hx : slot.answer m.buffers index (.output t) with
      | error f => exact .nil _
      | ok g =>
          simp only [viewed]
          split
          · next hs =>
              rw [← elementsOf_of_output hs hx, he]
              exact .one (.elements t _)
          · exact .nil _
  | scalar t => exact .nil _

/-- A store replaces the elements of one buffer, or none. -/
theorem stored_onArray (hm : bytesOf m h = some bytes) (t : ElementType) (values : List t.Bits)
    (slot : Slot) :
    ∃ after, bytesOf { m with buffers := slot.store m.buffers t values } h = some after ∧
      AllOnArray bytes (slot.stored h t values) after := by
  cases slot with
  | shared handle type => exact ⟨bytes, hm, .nil _⟩
  | scalar value => exact ⟨bytes, hm, .nil _⟩
  | exclusive handle type =>
      by_cases ht : type = t
      · subst ht
        by_cases hh : handle = h
        · subst hh
          obtain ⟨a, ha, rfl⟩ := Option.map_eq_some_iff.mp hm
          simp only [stored, store, and_self, if_true]
          refine ⟨(a.memory.store type values).toList, ?_, .one (.stores a.memory type values)⟩
          rw [bytesOf, Store.get?_update, ha]
          rfl
        · refine ⟨bytes, (bytesOf_stored (Ne.symm hh)).trans hm, ?_⟩
          rw [stored, if_neg fun hc => hh hc.1]
          exact .nil _
      · refine ⟨bytes, ?_, ?_⟩
        · rw [store, if_neg ht]
          exact hm
        · rw [stored, if_neg fun hc => ht hc.2]
          exact .nil _

end Slot

/-- Whatever the kernel is, it sees the bytes that are there and leaves what it stores. -/
theorem Procedure.run_onArray {α : Type} (slots : List Slot) (p : Procedure α) (cursor : Nat)
    (hm : bytesOf m h = some bytes) :
    ∃ after, bytesOf (p.run slots cursor m).2 h = some after ∧
      AllOnArray bytes (p.touches h slots cursor m) after := by
  induction p generalizing cursor m bytes with
  | done a => exact ⟨bytes, hm, .nil _⟩
  | fail e => exact ⟨bytes, hm, .nil _⟩
  | unwind q => exact ⟨bytes, hm, .nil _⟩
  | ask request next ih =>
      simp only [run, touches]
      cases slots[cursor]? with
      | none => exact ih _ cursor hm
      | some slot =>
          obtain ⟨after, ha, rest⟩ := ih (slot.answer m.buffers cursor request) (cursor + 1) hm
          exact ⟨after, ha, (slot.viewed_onArray hm cursor request).append rest⟩
  | store index t values next ih =>
      simp only [run, touches]
      cases slots[index]? with
      | none => exact ih cursor hm
      | some slot =>
          obtain ⟨between, hb, first⟩ := Slot.stored_onArray hm t values slot
          obtain ⟨after, ha, rest⟩ := ih cursor hb
          exact ⟨after, ha, first.append rest⟩
  | restart next ih => exact ih 0 hm
  | record entry next ih => exact ih cursor hm
  | references name next ih => exact ih _ cursor hm

theorem execute_onArray (hm : bytesOf m h = some bytes) (e : Executable) (shape : LaunchShape)
    (arguments : List BoundArgument) :
    ∃ after, bytesOf (execute Handle.index e shape arguments m).2 h = some after ∧
      AllOnArray bytes (launchTouches h e shape arguments m) after := by
  unfold execute launchTouches
  cases Invocation.bind Handle.index arguments with
  | error f => exact ⟨bytes, hm, .nil _⟩
  | ok bound =>
      have hl : bytesOf (Stage.first e shape bound m).machine h = some bytes :=
        (bytesOf_acquired m bound.locks h).trans hm
      obtain ⟨after, ha, touches⟩ := Procedure.run_onArray bound.slots
        (Stage.first e shape bound m).rest (Stage.first e shape bound m).cursor hl
      exact ⟨after, (bytesOf_released _ bound.locks h).trans ha, touches⟩

end Kernels

end Cpu

end Offload
