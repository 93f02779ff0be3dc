import Offload.Cpu.Backend
import Offload.Gpu.Backend
import Offload.Gpu.Limits
import Offload.Proofs.ByteCall

/-!
# Buffers of whole words

On the CPU device a buffer is a plain list of bytes. On a GPU device, which copies whole words, a
write zeroes the rest of a word that the buffer ends in; other writes keep what is behind them.
-/

namespace Offload

/-- A part of the memory is read as it is. -/
theorem Memory.read_eq {m : Memory} {offset count : Nat} (h : offset + count ≤ m.size) :
    m.read offset count = (m.toList.drop offset).take count := by
  have hw := m.written_le
  simp only [Memory.read, Memory.toList_eq, List.drop_append, List.take_append, List.drop_replicate,
    List.take_replicate, List.length_take, List.length_drop]
  congr 2
  omega

/-! ## The CPU device -/

namespace Cpu

theorem backend_likeList (context : Context) :
    backend.LikeList context (fun a bytes => a.memory.toList = bytes) overwrite where
  read {a bytes} h {count} hc := by
    subst h
    rw [Memory.length_toList] at hc
    show Outcome.ofExcept (a.read count) = _
    rw [Allocation.read, Allocation.size, if_pos hc, Memory.read_eq (by omega)]
    rfl
  read_past {a bytes} h {count} hc := by
    subst h
    rw [Memory.length_toList] at hc
    exact ⟨_, _, congrArg Outcome.ofExcept (if_neg (Nat.not_le.mpr hc))⟩
  write {a bytes} h {data} hd := by
    subst h
    rw [Memory.length_toList] at hd
    exact ⟨_, congrArg Outcome.ofExcept (if_pos hd), Memory.toList_write hd⟩
  write_past {a bytes} h {data} hd := by
    subst h
    rw [Memory.length_toList] at hd
    exact ⟨_, _, congrArg Outcome.ofExcept (if_neg (Nat.not_le.mpr hd))⟩

theorem allocate_zeroed {context : Context} {n : Nat} {a : Allocation}
    (h : backend.allocate context n = .ok a) : a.memory.toList = List.replicate n 0 := by
  change Outcome.ofExcept (Allocation.make context.capacity n) = _ at h
  unfold Allocation.make at h
  split at h
  · cases h; exact Memory.toList_zeroed n
  · cases h

end Cpu

/-! ## GPU devices -/

namespace Gpu

theorem le_aligned (n : Nat) : n ≤ aligned n := by
  unfold aligned wordSize
  omega

theorem aligned_mono {k n : Nat} (h : k ≤ n) : aligned k ≤ aligned n := by
  unfold aligned wordSize
  omega

/-- Bytes that end inside a word, which begins at `start`. -/
theorem aligned_of_mod_ne {k : Nat} (hk : k % wordSize ≠ 0) :
    ∃ start, aligned k = start + wordSize ∧ start ≤ k ∧ k < start + wordSize := by
  refine ⟨k / wordSize * wordSize, ?_⟩
  unfold aligned wordSize at *
  omega

/-- The write ends inside a word that the buffer of `n` bytes ends in. -/
def CutsLast (n : Nat) (data : List UInt8) : Prop :=
  data.length % wordSize ≠ 0 ∧ n < aligned data.length

instance (n : Nat) (data : List UInt8) : Decidable (CutsLast n data) :=
  inferInstanceAs (Decidable (_ ∧ _))

/-- Replaces the first bytes, and zeroes the others where they are in a word that the buffer ends
in. -/
def overwriteWords (data bytes : List UInt8) : List UInt8 :=
  if CutsLast bytes.length data then data ++ List.replicate (bytes.length - data.length) 0
  else overwrite data bytes

/-- An allocation of `context`, with these bytes at the start of its words. -/
structure Represents (context : Context) (a : Allocation) (bytes : List UInt8) : Prop where
  own : a.owner.isSame context = true
  size : a.storage.size = aligned (max a.length 1)
  bytes : a.storage.toList.take a.length = bytes

namespace Represents

variable {context : Context} {a : Allocation} {bytes data : List UInt8}

theorem length_eq (h : Represents context a bytes) : bytes.length = a.length := by
  have hl := le_aligned (max a.length 1)
  rw [← h.bytes, List.length_take, Memory.length_toList, h.size]
  omega

theorem aligned_le (h : Represents context a bytes) {count : Nat} (hc : count ≤ a.length) :
    aligned count ≤ a.storage.size := by
  rw [h.size]
  exact aligned_mono (by omega)

theorem readFrom_eq (h : Represents context a bytes) (offset count : Nat)
    (hs : offset + aligned count ≤ a.storage.size) (hc : offset + count ≤ a.length) :
    a.readFrom offset count = .ok ((bytes.drop offset).take count) := by
  have ha := le_aligned count
  simp only [Allocation.readFrom, Allocation.checkAccess, if_neg (Nat.not_lt.mpr hc)]
  show Except.ok ((a.storage.read offset (aligned count)).take count) = _
  rw [Memory.read_eq hs, List.take_take, ← h.bytes, List.drop_take, List.take_take]
  congr 2
  omega

/-- What the words hold after a write of the words at the start. -/
theorem store (h : Represents context a bytes) (whole : List UInt8)
    (hw : whole.length ≤ a.storage.size) :
    Represents context { a with storage := a.storage.write whole }
      (whole.take a.length ++ bytes.drop whole.length) :=
  ⟨h.own, h.size, by rw [Memory.toList_write hw, List.take_append, ← List.drop_take, h.bytes]⟩

/-- The word in which the write ends is in the buffer, so it is read first. -/
theorem wholeWords_inside (h : Represents context a bytes) (hk : data.length % wordSize ≠ 0)
    (hi : aligned data.length ≤ a.length) :
    a.wholeWords data =
      .ok (data ++ (bytes.drop data.length).take (aligned data.length - data.length)) := by
  obtain ⟨start, hs, hle, hlt⟩ := aligned_of_mod_ne hk
  rw [hs] at hi
  have hsize := h.aligned_le (Nat.le_refl a.length)
  have hl := le_aligned a.length
  have hr : a.readFrom start wordSize = .ok ((bytes.drop start).take wordSize) :=
    h.readFrom_eq start wordSize (show start + wordSize ≤ _ by omega) (by omega)
  simp only [Allocation.wholeWords, hs, if_pos hi, Nat.add_sub_cancel, hr]
  show Except.ok (data ++ _) = _
  rw [List.drop_take, List.drop_drop, Nat.add_sub_cancel' hle]
  congr 3
  omega

theorem wholeWords_cut (hi : a.length < aligned data.length) :
    a.wholeWords data =
      .ok (data ++ List.replicate (aligned data.length - data.length) 0) := by
  simp only [Allocation.wholeWords, if_neg (Nat.not_le.mpr hi)]
  rfl

theorem write (h : Represents context a bytes) (hd : data.length ≤ bytes.length) :
    ∃ a', a.write data = .ok a' ∧ Represents context a' (overwriteWords data bytes) := by
  have hn := h.length_eq
  have hsize := h.aligned_le (hn ▸ hd)
  have hle := le_aligned data.length
  simp only [Allocation.write, Allocation.checkAccess, if_neg (Nat.not_lt.mpr (hn ▸ hd))]
  by_cases hk : data.length % wordSize = 0
  · refine ⟨_, if_pos hk, ?_⟩
    have hs := h.store data (by omega)
    rw [List.take_of_length_le (by omega)] at hs
    rwa [overwriteWords, if_neg fun hc => hc.1 hk]
  · simp only [if_neg hk]
    by_cases hi : aligned data.length ≤ a.length
    · refine ⟨_, by rw [h.wholeWords_inside hk hi]; rfl, ?_⟩
      -- The bytes that were read are the ones that the words would have lost.
      let whole := data ++ (bytes.drop data.length).take (aligned data.length - data.length)
      have hlen : whole.length = aligned data.length := by
        simp only [whole, List.length_append, List.length_take, List.length_drop]
        omega
      have hw : whole ++ bytes.drop whole.length = overwrite data bytes := by
        rw [hlen, ← Nat.add_sub_cancel' hle, ← List.drop_drop, List.append_assoc, overwrite]
        congr 1
        exact List.take_append_drop _ _
      have hs := h.store whole (by omega)
      rw [List.take_of_length_le (by omega), hw] at hs
      rwa [overwriteWords, if_neg fun hc => by have := hc.2; omega]
    · have hlt := Nat.lt_of_not_le hi
      refine ⟨_, by rw [wholeWords_cut hlt]; rfl, ?_⟩
      let whole := data ++ List.replicate (aligned data.length - data.length) (0 : UInt8)
      have hlen : whole.length = aligned data.length := by
        simp only [whole, List.length_append, List.length_replicate]
        omega
      have hs := h.store whole (by omega)
      rw [List.drop_eq_nil_of_le (by omega), List.append_nil, List.take_append,
        List.take_of_length_le (by omega), List.take_replicate] at hs
      have hmin : min (a.length - data.length) (aligned data.length - data.length) =
          bytes.length - data.length := by omega
      rw [hmin] at hs
      rwa [overwriteWords, if_pos ⟨hk, by omega⟩]

end Represents

theorem access_ok {context : Context} {a : Allocation} {α : Type} (moves : Bool) (value : α)
    (h : a.owner.isSame context = true) : access context a moves (.ok value) = .ok value := by
  simp [access, h]

theorem backend_likeList (p : Platform) (context : Context) :
    p.backend.LikeList context (Represents context) overwriteWords where
  read {a bytes} h {count} hc := by
    have hn := h.length_eq
    have hsize := h.aligned_le (hn ▸ hc)
    show access context a _ (a.readFrom 0 count) = _
    rw [h.readFrom_eq 0 count (by omega) (by omega), access_ok _ _ h.own]
    rfl
  read_past {a bytes} h {count} hc := by
    rw [h.length_eq] at hc
    refine ⟨"buffer", s!"access of {count} bytes exceeds buffer of {a.length} bytes", ?_⟩
    show access context a _ (a.readFrom 0 count) = _
    rw [Allocation.readFrom, Nat.zero_add, Allocation.checkAccess, if_pos hc]
    rfl
  write {a bytes} h {data} hd := by
    obtain ⟨a', hw, h'⟩ := h.write hd
    refine ⟨a', ?_, h'⟩
    show access context a true (a.write data) = _
    rw [hw, access_ok _ _ h.own]
  write_past {a bytes} h {data} hd := by
    rw [h.length_eq] at hd
    refine ⟨"buffer", s!"access of {data.length} bytes exceeds buffer of {a.length} bytes", ?_⟩
    show access context a true (a.write data) = _
    rw [Allocation.write, Allocation.checkAccess, if_pos hd]
    rfl

theorem allocate_zeroed {p : Platform} {context : Context} {n : Nat} {a : Allocation}
    (h : p.backend.allocate context n = .ok a) : Represents context a (List.replicate n 0) := by
  change Outcome.ofPanicking (Allocation.make p.bufferSize context n) = _ at h
  simp only [Allocation.make] at h
  split at h
  · cases h
  split at h
  · cases h
  · cases h
    refine ⟨by simp [Context.isSame], rfl, ?_⟩
    have hn := le_aligned (max n 1)
    show (Memory.zeroed (aligned (max n 1))).toList.take n = _
    rw [Memory.toList_zeroed, List.take_replicate, Nat.min_eq_left (by omega)]

end Gpu

/-! ## Writes that keep what is behind them -/

/-- The write does not end inside a word that the buffer ends in, or leaves only zeros behind. -/
def Spares (data bytes : List UInt8) : Prop :=
  data.length % Gpu.wordSize = 0 ∨ Gpu.aligned data.length ≤ bytes.length ∨
    ∀ x ∈ bytes.drop data.length, x = 0

instance (data bytes : List UInt8) : Decidable (Spares data bytes) :=
  inferInstanceAs (Decidable (_ ∨ _ ∨ _))

theorem length_overwrite {data bytes : List UInt8} (h : data.length ≤ bytes.length) :
    (overwrite data bytes).length = bytes.length := by
  simp only [overwrite, List.length_append, List.length_drop]
  omega

theorem length_overwriteWords {data bytes : List UInt8} (h : data.length ≤ bytes.length) :
    (Gpu.overwriteWords data bytes).length = bytes.length := by
  unfold Gpu.overwriteWords
  split
  · simp only [List.length_append, List.length_replicate]
    omega
  · exact length_overwrite h

theorem overwriteWords_eq_iff {data bytes : List UInt8} :
    Gpu.overwriteWords data bytes = overwrite data bytes ↔ Spares data bytes := by
  unfold Gpu.overwriteWords
  split
  · next hc =>
      rw [overwrite, List.append_right_inj, eq_comm, List.eq_replicate_iff, List.length_drop]
      refine ⟨fun h => .inr (.inr h.2), fun h => ⟨rfl, ?_⟩⟩
      rcases h with h | h | h
      · exact absurd h hc.1
      · exact absurd hc.2 (Nat.not_lt.mpr h)
      · exact h
  · next hc =>
      refine iff_of_true rfl ?_
      by_cases hk : data.length % Gpu.wordSize = 0
      · exact .inl hk
      · exact .inr (.inl (Nat.not_lt.mp fun hlt => hc ⟨hk, hlt⟩))

namespace ByteCall

variable {c : ByteCall} {calls : List ByteCall} {bytes : List UInt8} {n : Nat}

/-- The call keeps what is behind the bytes that it writes. -/
def Keeps : ByteCall → List UInt8 → Prop
  | .write data, bytes => Spares data bytes
  | .read _, _ | .clone, _ => True

/-- So do all calls that are made one after another. -/
def Harmless : List ByteCall → List UInt8 → Prop
  | [], _ => True
  | c :: rest, bytes => c.Keeps bytes ∧ Harmless rest (c.onList overwrite bytes).2

instance : (c : ByteCall) → (bytes : List UInt8) → Decidable (c.Keeps bytes)
  | .write data, bytes => inferInstanceAs (Decidable (Spares data bytes))
  | .read _, _ | .clone, _ => isTrue trivial

instance decidableHarmless :
    (calls : List ByteCall) → (bytes : List UInt8) → Decidable (Harmless calls bytes)
  | [], _ => isTrue trivial
  | c :: rest, bytes =>
    have := decidableHarmless rest (c.onList overwrite bytes).2
    inferInstanceAs (Decidable (_ ∧ _))

/-- The calls, with all `n` bytes read after each of them. -/
def audited (n : Nat) (calls : List ByteCall) : List ByteCall :=
  calls.flatMap fun c => [c, .read n]

theorem onList_fst (store store' : List UInt8 → List UInt8 → List UInt8) (c : ByteCall)
    (bytes : List UInt8) : (c.onList store bytes).1 = (c.onList store' bytes).1 := by
  cases c with
  | read count => rfl
  | write data => simp only [onList]; split <;> rfl
  | clone => rfl

theorem onList_snd_eq_iff :
    (c.onList Gpu.overwriteWords bytes).2 = (c.onList overwrite bytes).2 ↔
      c.Keeps bytes := by
  cases c with
  | read count => exact iff_of_true rfl trivial
  | clone => exact iff_of_true rfl trivial
  | write data =>
      simp only [onList, Keeps]
      split
      · exact overwriteWords_eq_iff
      · next hd =>
          refine iff_of_true rfl (.inr (.inr fun x hx => ?_))
          rw [List.drop_eq_nil_of_le (by omega)] at hx
          cases hx

theorem length_onList {store : List UInt8 → List UInt8 → List UInt8}
    (hs : ∀ data bytes, data.length ≤ bytes.length → (store data bytes).length = bytes.length) :
    (c.onList store bytes).2.length = bytes.length := by
  cases c with
  | read count => simp only [onList]; split <;> rfl
  | clone => rfl
  | write data =>
      simp only [onList]
      split
      · next hd => exact hs data bytes hd
      · rfl

theorem onList_read_all (store : List UInt8 → List UInt8 → List UInt8) (hn : bytes.length = n) :
    (ByteCall.read n).onList store bytes = (.bytes bytes, bytes) := by
  rw [onList, if_pos (Nat.le_of_eq hn.symm), List.take_of_length_le (Nat.le_of_eq hn)]

theorem answers_of_harmless (h : Harmless calls bytes) :
    answers (onList Gpu.overwriteWords) calls bytes = answers (onList overwrite) calls bytes := by
  induction calls generalizing bytes with
  | nil => rfl
  | cons c rest ih =>
      rw [answers, answers, onList_snd_eq_iff.mpr h.1, ih h.2, onList_fst]

/-- Nothing is told apart after each call exactly if each write keeps what is behind it. -/
theorem audited_answers_iff (hn : bytes.length = n) :
    answers (onList Gpu.overwriteWords) (audited n calls) bytes =
        answers (onList overwrite) (audited n calls) bytes ↔
      Harmless calls bytes := by
  induction calls generalizing bytes with
  | nil => exact iff_of_true rfl trivial
  | cons c rest ih =>
      have hwords : (c.onList Gpu.overwriteWords bytes).2.length = n :=
        (length_onList fun _ _ => length_overwriteWords).trans hn
      have hplain : (c.onList overwrite bytes).2.length = n :=
        (length_onList fun _ _ => length_overwrite).trans hn
      show answers _ (c :: .read n :: audited n rest) bytes =
        answers _ (c :: .read n :: audited n rest) bytes ↔ _
      simp only [answers, onList_read_all _ hwords, onList_read_all _ hplain, List.cons.injEq,
        onList_fst Gpu.overwriteWords overwrite, ByteAnswer.bytes.injEq, true_and]
      rw [Harmless, ← onList_snd_eq_iff]
      refine and_congr_right fun he => ?_
      rw [he]
      exact ih hplain

end ByteCall

/-- On the CPU device, a buffer of `n` bytes is a list of bytes, whatever is done to it. On a GPU
device it is, for every caller, exactly as long as no write cuts the word that the buffer ends in. -/
theorem words_like_list {n : Nat} {p : Gpu.Platform} {own : Gpu.Context}
    {m m' : Machine Gpu.carriers} {handle : Handle} {other : Cpu.Context}
    {c c' : Machine Cpu.carriers} {handle' : Handle}
    (hg : DeviceBuffer.allocate p.backend own n m = (.ok handle, m'))
    (hc : DeviceBuffer.allocate Cpu.backend other n c = (.ok handle', c'))
    (calls : List ByteCall) :
    (ByteCall.Harmless calls (List.replicate n 0) →
      ByteCall.answers (ByteCall.run p.backend own handle) calls m' =
          ByteCall.answers (ByteCall.onList overwrite) calls (List.replicate n 0) ∧
        ByteCall.answers (ByteCall.run p.backend own handle) calls m' =
          ByteCall.answers (ByteCall.run Cpu.backend other handle') calls c') ∧
    (ByteCall.answers (ByteCall.run p.backend own handle) (ByteCall.audited n calls) m' =
        ByteCall.answers (ByteCall.onList overwrite) (ByteCall.audited n calls)
          (List.replicate n 0) ↔
      ByteCall.Harmless calls (List.replicate n 0)) ∧
    ByteCall.answers (ByteCall.run Cpu.backend other handle') calls c' =
      ByteCall.answers (ByteCall.onList overwrite) calls (List.replicate n 0) := by
  have words := (Gpu.backend_likeList p own).answers_eq
    (has_of_allocate (fun _ => Gpu.allocate_zeroed) hg)
  have plain := (Cpu.backend_likeList other).answers_eq
    (has_of_allocate (fun _ => Cpu.allocate_zeroed) hc)
  refine ⟨fun h => ?_, ?_, plain calls⟩
  · rw [words, plain]
    exact ⟨ByteCall.answers_of_harmless h, ByteCall.answers_of_harmless h⟩
  · rw [words]
    exact ByteCall.audited_answers_iff List.length_replicate

/-- A context without kernels. -/
def Cpu.bench : Cpu.Context := ⟨0, {}, {}, Cpu.usualCapacity⟩

/-- A context of the GPU device with the number zero. -/
def Gpu.bench : Gpu.Context := ⟨0, ⟨0, none⟩⟩

/-- The usual system without any shaders. -/
def Gpu.bare : Gpu.Platform := .knowing []

theorem words_like_list_harmless :
    ∃ handle m' handle' c',
      DeviceBuffer.allocate Gpu.bare.backend Gpu.bench 6 { state := () } = (.ok handle, m') ∧
      DeviceBuffer.allocate Cpu.backend Cpu.bench 6 { state := {} } = (.ok handle', c') ∧
      ByteCall.answers (ByteCall.run Gpu.bare.backend Gpu.bench handle)
        [.write [1, 2, 3, 4, 5, 6], .clone, .write [9, 9, 9], .write [0, 0, 0, 0, 0, 0, 0], .read 6]
        m' = [.done, .done, .done, .refused, .bytes [9, 9, 9, 4, 5, 6]] := by
  have hg : DeviceBuffer.allocate Gpu.bare.backend Gpu.bench 6 { state := () } = (.ok _, _) := rfl
  have hc : DeviceBuffer.allocate Cpu.backend Cpu.bench 6 { state := {} } = (.ok _, _) := rfl
  refine ⟨_, _, _, _, hg, hc, ?_⟩
  rw [((words_like_list hg hc _).1 (by decide +kernel)).1]
  decide

/-- The sixth byte is not written again, but it is in the word in which the second write ends. -/
theorem cut_word_is_zeroed :
    (match DeviceBuffer.allocate Gpu.bare.backend Gpu.bench 6 { state := () } with
      | (.ok handle, m') =>
        ByteCall.answers (ByteCall.run Gpu.bare.backend Gpu.bench handle)
          [.write [1, 2, 3, 4, 5, 6], .write [9, 9, 9, 9, 9], .read 6] m'
      | _ => []) = [.done, .done, .bytes [9, 9, 9, 9, 9, 0]] ∧
    ByteCall.answers (ByteCall.onList overwrite)
        [.write [1, 2, 3, 4, 5, 6], .write [9, 9, 9, 9, 9], .read 6] (List.replicate 6 0) =
      [.done, .done, .bytes [9, 9, 9, 9, 9, 6]] := by
  decide +kernel

end Offload
