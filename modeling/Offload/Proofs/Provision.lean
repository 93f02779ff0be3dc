import Offload.Proofs.Compilation
import Offload.Proofs.WordCopy

/-!
# Memory on request

A request for memory ends as a value: with a new buffer of zeros, or of the elements that were given,
or out of memory. The CPU device ends every request so. A GPU device does as long as it has room for
the words, or the size is no number; what is too large for it unwinds.
-/

namespace Offload

open DeviceBuffer (allocate allocate_ok allocate_fault allocate_unwound zeros ofElements)

/-! ## Requests that end as values -/

/-- A request has made a new buffer behind a handle with one owner, which holds `bytes`, as there is
room. Or there is no room, and nothing has changed. Whoever asked gets what `wrap` makes of the
handle. -/
inductive Provided {T : Carriers} {α : Type} (represents : T.Allocation → List UInt8 → Prop)
    (room : Prop) (wrap : Handle → α) (bytes : List UInt8) (m : Machine T) :
    Outcome Error α × Machine T → Prop where
  | granted {handle buffers} (fits : room) (new : m.buffers.cell? handle = none)
      (owned : buffers.refs handle = 1)
      (holds : Machine.Has represents { m with buffers } handle bytes)
      (others : ∀ h ≠ handle, buffers.cell? h = m.buffers.cell? h) :
      Provided represents room wrap bytes m (.ok (wrap handle), { m with buffers })
  | refused (full : ¬ room) (size : Nat) :
      Provided represents room wrap bytes m (.fault (.outOfMemory size), m)

section Requests

variable {T : Carriers} {b : Backend T} {context : T.Context} {m : Machine T} {room : Prop}
  {represents : T.Allocation → List UInt8 → Prop} {bytes : List UInt8} {n : Nat}

theorem provided_allocate (m : Machine T)
    (granted : room → ∃ a, b.allocate context n = .ok a ∧ represents a bytes)
    (refused : ¬ room → ∃ size, b.allocate context n = .fault (.outOfMemory size)) :
    Provided represents room id bytes m (allocate b context n m) := by
  by_cases hr : room
  · obtain ⟨a, ha, hb⟩ := granted hr
    rw [allocate_ok ha]
    exact .granted hr m.buffers.cell?_fresh ((m.buffers.refs_insert a _).trans (if_pos rfl))
      ⟨a, m.buffers.get?_insert a, hb⟩ fun h hh => (m.buffers.cell?_insert a h).trans (if_neg hh)
  · obtain ⟨size, hs⟩ := refused hr
    rw [allocate_fault hs]
    exact .refused hr size

variable {type : ElementType} {length : Nat}

/-- A buffer of zeros is asked for by its bytes, if their number is one. -/
theorem zeros_of_lt (h : length * type.size < Word.limit) :
    zeros b context type length =
      (do return ⟨← allocate b context (length * type.size), type, length⟩) := by
  rw [zeros, Word.mul?_eq_some_iff.mpr ⟨h, rfl⟩]

theorem zeros_of_le (h : Word.limit ≤ length * type.size) (m : Machine T) :
    zeros b context type length m = (.fault (.outOfMemory (Word.limit - 1)), m) := by
  rw [zeros, Word.mul?, if_neg (Nat.not_lt.mpr h)]
  rfl

theorem zeros_unwound {p : Panic} (h : length * type.size < Word.limit)
    (ha : b.allocate context (length * type.size) = .unwound p) (m : Machine T) :
    zeros b context type length m = (.unwound p, m) := by
  rw [zeros_of_lt h]
  show Action.bind (allocate b context _) _ m = _
  simp only [Action.bind, allocate_unwound ha]

theorem provided_zeros (small : room → length * type.size < Word.limit)
    (provided : length * type.size < Word.limit →
      Provided represents room id bytes m (allocate b context (length * type.size) m)) :
    Provided represents room (⟨·, type, length⟩) bytes m (zeros b context type length m) := by
  rcases Nat.lt_or_ge (length * type.size) Word.limit with hl | hl
  · rw [zeros_of_lt hl]
    show Provided _ _ _ _ _ (Action.bind (DeviceBuffer.allocate b context _) _ m)
    have h := provided hl
    cases hr : DeviceBuffer.allocate b context (length * type.size) m with
    | mk r m' =>
        rw [hr] at h
        simp only [Action.bind, hr]
        cases h with
        | granted fits new owned holds others => exact .granted fits new owned holds others
        | refused full size => exact .refused full size
  · rw [zeros_of_le hl]
    exact .refused (fun hr => absurd (small hr) (Nat.not_lt.mpr hl)) _

variable {store : List UInt8 → List UInt8 → List UInt8} {elements : List type.Bits}
  {made : DeviceBuffer} {m' m'' : Machine T}

theorem ofElements_of_nil (hz : zeros b context type 0 m = (.ok made, m')) :
    ofElements b context type [] m = (.ok made, m') := by
  show Action.bind (zeros b context type 0) _ m = _
  simp only [Action.bind, hz]
  rfl

theorem ofElements_of_written (hz : zeros b context type elements.length m = (.ok made, m'))
    (hn : elements ≠ [])
    (hw : DeviceBuffer.writeBytes b context made.handle (type.encodeAll elements) m' =
      (.ok (), m'')) :
    ofElements b context type elements m = (.ok made, m'') := by
  cases elements with
  | nil => exact absurd rfl hn
  | cons first rest =>
      show Action.bind (zeros b context type _) _ m = _
      simp only [Action.bind, hz]
      refine (congrFun (if_neg Bool.false_ne_true) m').trans ?_
      simp only [hw]

/-- Elements are written into the zeros that were made for them, all of which they replace. -/
theorem provided_ofElements (hb : b.LikeList context represents store)
    (whole : ∀ data bytes : List UInt8, data.length = bytes.length → store data bytes = data)
    (provided : Provided represents room (⟨·, type, elements.length⟩)
      (List.replicate (elements.length * type.size) 0) m
      (zeros b context type elements.length m)) :
    Provided represents room (⟨·, type, elements.length⟩) (type.encodeAll elements) m
      (ofElements b context type elements m) := by
  have hn : (type.encodeAll elements).length =
      (List.replicate (elements.length * type.size) (0 : UInt8)).length := by
    rw [ElementType.length_encodeAll, List.length_replicate]
  generalize hr : zeros b context type elements.length m = r at provided
  cases provided with
  | refused full size =>
      show Provided _ _ _ _ _ (Action.bind (zeros b context type _) _ m)
      simp only [Action.bind, hr]
      exact .refused full size
  | @granted handle buffers fits new owned holds others =>
      by_cases he : elements = []
      · subst he
        rw [ofElements_of_nil hr]
        rw [List.length_nil, Nat.zero_mul] at holds
        exact .granted fits new owned holds others
      · obtain ⟨a, ha, hz⟩ := holds
        obtain ⟨a', hw, hs⟩ := hb.write hz (Nat.le_of_eq hn)
        rw [whole _ _ hn] at hs
        -- What is written changes neither who owns the buffer nor any other one.
        rw [ofElements_of_written hr he (writeBytes_ok ha hw)]
        refine .granted fits new ?_ ⟨a', ?_, hs⟩ fun h hh => ?_
        · rw [← owned, Store.update, Store.refs, Store.cell?_adjust_self, Store.refs]
          cases buffers.cell? handle <;> rfl
        · rw [Store.get?_update, ha]
          rfl
        · rw [Store.update, Store.cell?_adjust_ne hh]
          exact others h hh

end Requests

/-- A request unwinds and changes nothing. -/
def Unwinds {T : Carriers} {α : Type} (m : Machine T) (r : Outcome Error α × Machine T) : Prop :=
  ∃ p, r = (.unwound p, m)

theorem ofElements_unwinds {T : Carriers} {b : Backend T} {context : T.Context} {m : Machine T}
    {type : ElementType} {elements : List type.Bits}
    (h : Unwinds m (zeros b context type elements.length m)) :
    Unwinds m (ofElements b context type elements m) := by
  obtain ⟨p, hp⟩ := h
  refine ⟨p, ?_⟩
  show Action.bind (zeros b context type _) _ m = _
  simp only [Action.bind, hp]

/-! ## Room -/

theorem overwrite_whole (data bytes : List UInt8) (h : data.length = bytes.length) :
    overwrite data bytes = data := by
  rw [overwrite, h, List.drop_length, List.append_nil]

namespace Cpu

/-- There is room for `n` bytes in words of eight. -/
def Room (context : Context) (n : Nat) : Prop := (n + 7) / 8 * 8 ≤ context.capacity

instance (context : Context) (n : Nat) : Decidable (Room context n) :=
  inferInstanceAs (Decidable (_ ≤ _))

theorem Room.lt_limit {context : Context} {n : Nat} (h : Room context n) : n < Word.limit := by
  have hm := context.capacity.isLt
  unfold Room at h
  omega

/-- The bytes of an allocation. -/
def Holds (a : Allocation) (bytes : List UInt8) : Prop := a.memory.toList = bytes

variable (context : Context) (m : Machine carriers) (n : Nat)

theorem allocate_provided :
    Provided Holds (Room context n) id (List.replicate n 0) m (allocate backend context n m) := by
  refine provided_allocate m (fun h => ?_) fun h => ⟨n, congrArg Outcome.ofExcept (if_neg h)⟩
  have ha : backend.allocate context n = .ok { memory := .zeroed n } :=
    congrArg Outcome.ofExcept (if_pos h)
  exact ⟨_, ha, allocate_zeroed ha⟩

theorem zeros_provided (type : ElementType) (length : Nat) :
    Provided Holds (Room context (length * type.size)) (⟨·, type, length⟩)
      (List.replicate (length * type.size) 0) m (zeros backend context type length m) :=
  provided_zeros Room.lt_limit fun _ => allocate_provided context m _

end Cpu

namespace Gpu

/-- The device has room for the words that hold `n` bytes, of which there is always one. -/
def Room (p : Platform) (n : Nat) : Prop := aligned (max n 1) ≤ p.bufferSize

instance (p : Platform) (n : Nat) : Decidable (Room p n) :=
  inferInstanceAs (Decidable (_ ≤ _))

theorem Room.lt_limit {p : Platform} {n : Nat} (h : Room p n) : n < Word.limit := by
  have hm := p.bufferSize_lt
  have hn := le_aligned (max n 1)
  unfold Room at h
  omega

theorem overwriteWords_whole (data bytes : List UInt8) (h : data.length = bytes.length) :
    overwriteWords data bytes = data := by
  unfold overwriteWords
  split
  · rw [h, Nat.sub_self, List.replicate_zero, List.append_nil]
  · exact overwrite_whole data bytes h

variable (p : Platform) (context : Context) (m : Machine carriers) {n : Nat}

theorem make_of_room (h : Room p n) :
    p.backend.allocate context n = .ok ⟨context, n, .zeroed (aligned (max n 1))⟩ := by
  have hm := p.bufferSize_lt
  have hl : ¬ Word.limit ≤ aligned (max n 1) := by
    unfold Room at h
    omega
  show Outcome.ofPanicking (Allocation.make p.bufferSize context n) = _
  simp only [Allocation.make, if_neg hl, if_neg (Nat.not_lt.mpr h)]
  rfl

/-- The rounded size overflows, or the graphics layer refuses it. -/
theorem make_of_not_room (h : ¬ Room p n) :
    p.backend.allocate context n =
      .unwound (if Word.limit ≤ aligned (max n 1) then .overflow .multiply else .validation) := by
  show Outcome.ofPanicking (Allocation.make p.bufferSize context n) = _
  simp only [Allocation.make]
  split
  · rfl
  · rw [if_pos (Nat.lt_of_not_le h)]
    rfl

theorem allocate_provided (h : Room p n) :
    Provided (Represents context) (Room p n) id (List.replicate n 0) m
      (allocate p.backend context n m) :=
  have made := make_of_room p context h
  provided_allocate m (fun _ => ⟨_, made, allocate_zeroed made⟩) fun hn => absurd h hn

/-- Elements that are asked for end as a value if there is room for their bytes, or if these have no
number. -/
theorem zeros_provided {type : ElementType} {length : Nat}
    (h : Room p (length * type.size) ∨ Word.limit ≤ length * type.size) :
    Provided (Represents context) (Room p (length * type.size)) (⟨·, type, length⟩)
      (List.replicate (length * type.size) 0) m (zeros p.backend context type length m) :=
  provided_zeros Room.lt_limit fun hl =>
    allocate_provided p context m (h.resolve_right (Nat.not_le.mpr hl))

theorem zeros_unwinds {type : ElementType} {length : Nat}
    (h : ¬ (Room p (length * type.size) ∨ Word.limit ≤ length * type.size)) :
    Unwinds m (zeros p.backend context type length m) := by
  obtain ⟨full, small⟩ := not_or.mp h
  exact ⟨_, zeros_unwound (Nat.lt_of_not_le small) (make_of_not_room p context full) m⟩

end Gpu

/-- Every request for memory of the CPU device ends as a value: zeroed bytes, zeros of a type, or the
elements that were given, whenever there is room, and out of memory otherwise. On a GPU device a
request ends so if there is room for it or its size is too large to be a number, and unwinds in all
other cases. -/
theorem memory_provided_iff (cpu : Cpu.Context) (m : Machine Cpu.carriers) (p : Gpu.Platform)
    (gpu : Gpu.Context) (m' : Machine Gpu.carriers) :
    ((∀ n, Provided Cpu.Holds (Cpu.Room cpu n) id (List.replicate n 0) m
        (allocate Cpu.backend cpu n m)) ∧
      (∀ type length, Provided Cpu.Holds (Cpu.Room cpu (length * type.size)) (⟨·, type, length⟩)
        (List.replicate (length * type.size) 0) m (zeros Cpu.backend cpu type length m)) ∧
      ∀ (type : ElementType) (elements : List type.Bits),
        Provided Cpu.Holds (Cpu.Room cpu (elements.length * type.size))
          (⟨·, type, elements.length⟩) (type.encodeAll elements) m
          (ofElements Cpu.backend cpu type elements m)) ∧
    let Holds := Gpu.Represents gpu
    let Room := Gpu.Room p
    (∀ n,
      (Room n → Provided Holds (Room n) id (List.replicate n 0) m'
        (allocate p.backend gpu n m')) ∧
      (¬ Room n → Unwinds m' (allocate p.backend gpu n m'))) ∧
    (∀ type length, let n := length * type.size
      (Room n ∨ Word.limit ≤ n → Provided Holds (Room n) (⟨·, type, length⟩)
        (List.replicate n 0) m' (zeros p.backend gpu type length m')) ∧
      (¬ (Room n ∨ Word.limit ≤ n) → Unwinds m' (zeros p.backend gpu type length m'))) ∧
    ∀ (type : ElementType) (elements : List type.Bits), let n := elements.length * type.size
      (Room n ∨ Word.limit ≤ n →
        Provided Holds (Room n) (⟨·, type, elements.length⟩) (type.encodeAll elements) m'
          (ofElements p.backend gpu type elements m')) ∧
      (¬ (Room n ∨ Word.limit ≤ n) → Unwinds m' (ofElements p.backend gpu type elements m')) := by
  refine ⟨⟨Cpu.allocate_provided cpu m, Cpu.zeros_provided cpu m, fun type elements => ?_⟩,
    fun n => ⟨Gpu.allocate_provided p gpu m', fun hn => ?_⟩, fun type length => ?_,
    fun type elements => ⟨fun h => ?_, fun h => ?_⟩⟩
  · exact provided_ofElements (Cpu.backend_likeList cpu) overwrite_whole
      (Cpu.zeros_provided cpu m type elements.length)
  · exact ⟨_, allocate_unwound (Gpu.make_of_not_room p gpu hn) m'⟩
  · exact ⟨Gpu.zeros_provided p gpu m', Gpu.zeros_unwinds p gpu m'⟩
  · exact provided_ofElements (Gpu.backend_likeList p gpu) Gpu.overwriteWords_whole
      (Gpu.zeros_provided p gpu m' h)
  · exact ofElements_unwinds (Gpu.zeros_unwinds p gpu m' h)

/-- Three words are made, and one word more than the device has room for unwinds. -/
theorem memory_provided_iff_room :
    let m : Machine Gpu.carriers := { state := () }
    Provided (Gpu.Represents Gpu.bench) (Gpu.Room Gpu.bare 12) (⟨·, .u32, 3⟩)
      (List.replicate 12 0) m (zeros Gpu.bare.backend Gpu.bench .u32 3 m) ∧
    Unwinds m (zeros Gpu.bare.backend Gpu.bench .u32 67108865 m) :=
  have h := (memory_provided_iff Cpu.bench { state := {} } Gpu.bare Gpu.bench
    { state := () }).2.2.1 .u32
  ⟨(h 3).1 (by decide), (h 67108865).2 (by decide)⟩

/-- A GPU device of the usual limits has room for 67,108,864 words of four bytes. -/
theorem large_buffer_unwinds :
    zeros Gpu.bare.backend Gpu.bench .u32 67108865 { state := () } =
      (.unwound .validation, { state := () }) :=
  rfl

end Offload
