import Offload.Proofs.Stage

/-!
# What a launch leaves alone

A kernel stores into its slots, and there is a slot to store into for an argument that was bound for
writing, and for no other. What such an argument grants are the whole elements of its type.
-/

namespace Offload

/-! ## Bytes out of reach -/

/-- Bytes of the whole elements in a run of `size` bytes. -/
def ElementType.wholeBytes (t : ElementType) (size : Nat) : Nat :=
  size / t.size * t.size

theorem Memory.drop_store (m : Memory) (t : ElementType) (values : List t.Bits) :
    (m.store t values).toList.drop (t.wholeBytes m.size) =
      m.toList.drop (t.wholeBytes m.size) :=
  m.drop_store_of_le (Nat.mul_le_mul_right _ (List.length_take_le _ _))

theorem Store.map_get?_update {α γ : Type} {g : α → γ} {f : α → α} (hf : ∀ a, g (f a) = g a)
    (s : Store α) (k h : Handle) : ((s.update k f).get? h).map g = (s.get? h).map g := by
  by_cases hk : h = k
  · subst hk
    simp only [get?, update, cell?_adjust_self]
    cases s.cell? h with
    | none => rfl
    | some c => exact congrArg some (hf c.value)
  · simp only [get?, update, cell?_adjust_ne hk]

namespace Cpu

/-- The size of an allocation, and its bytes past the elements of the type that is granted. -/
def Allocation.outside (granted? : Option ElementType) (a : Allocation) : Nat × List UInt8 :=
  (a.size, a.memory.toList.drop (granted?.elim 0 fun t => t.wholeBytes a.size))

/-- What is out of reach behind a handle. -/
def outsideOf (granted? : Option ElementType) (h : Handle) (s : Store Allocation) :
    Option (Nat × List UInt8) :=
  (s.get? h).map (·.outside granted?)

/-- A slot to store into at `h` has the type that is granted there. -/
def Grants (slots : List Slot) (h : Handle) (granted? : Option ElementType) : Prop :=
  ∀ t, Slot.exclusive h t ∈ slots → granted? = some t

section Launches

variable {slots : List Slot} {h : Handle} {granted? : Option ElementType}

theorem Slot.store_outside (hg : Grants slots h granted?) {slot : Slot} (hs : slot ∈ slots)
    (t : ElementType) (values : List t.Bits) (s : Store Allocation) :
    outsideOf granted? h (slot.store s t values) = outsideOf granted? h s := by
  cases slot with
  | shared handle type => rfl
  | scalar value => rfl
  | exclusive handle type =>
      simp only [store]
      split
      · next ht =>
          subst ht
          by_cases hh : h = handle
          -- What is stored are elements of the type that is granted.
          · subst hh
            rw [hg _ hs]
            exact Store.map_get?_update
              (fun a => congrArg (Prod.mk a.size) (a.memory.drop_store type values)) s h h
          · simp only [outsideOf, Store.get?, Store.update, Store.cell?_adjust_ne hh]
      · rfl

/-- One step stores into one slot at most. -/
theorem Stage.next?_outside {α : Type} {s s' : Stage α} (hg : Grants slots h granted?)
    (hn : s.next? slots = some s') :
    outsideOf granted? h s'.machine.buffers = outsideOf granted? h s.machine.buffers := by
  obtain ⟨rest, cursor, machine⟩ := s
  unfold next? at hn
  cases rest with
  | done a => cases hn
  | fail e => cases hn
  | unwind p => cases hn
  | ask request next => simp only at hn; split at hn <;> cases hn <;> rfl
  | store index type values next =>
      simp only at hn
      split at hn
      · next slot hs => cases hn; exact Slot.store_outside hg (List.mem_of_getElem? hs) type values _
      · cases hn; rfl
  | restart next => cases hn; rfl
  | record entry next => cases hn; rfl
  | references name next => cases hn; rfl

theorem Stage.Steps.outside {α : Type} {s s' : Stage α} (hg : Grants slots h granted?)
    (steps : Steps slots s s') :
    outsideOf granted? h s'.machine.buffers = outsideOf granted? h s.machine.buffers := by
  induction steps with
  | refl s => rfl
  | step next _ ih => exact ih.trans (next?_outside hg next)

theorem outsideOf_acquire (s : Store Allocation) (l : LockRequest) :
    outsideOf granted? h (Invocation.acquire s l) = outsideOf granted? h s := by
  refine Store.map_get?_update ?_ s l.handle h
  exact fun _ => rfl

theorem outsideOf_release (s : Store Allocation) (l : LockRequest) :
    outsideOf granted? h (Invocation.release s l) = outsideOf granted? h s := by
  refine Store.map_get?_update ?_ s l.handle h
  exact fun _ => rfl

theorem outsideOf_foldl {f : Store Allocation → LockRequest → Store Allocation}
    (hf : ∀ s l, outsideOf granted? h (f s l) = outsideOf granted? h s)
    (locks : List LockRequest) (s : Store Allocation) :
    outsideOf granted? h (locks.foldl f s) = outsideOf granted? h s := by
  induction locks generalizing s with
  | nil => rfl
  | cons l rest ih => exact (ih _).trans (hf s l)

/-- Whatever the kernel is, a launch does not touch what its slots do not grant. -/
theorem execute_outside {address : Handle → Nat} {arguments : List BoundArgument}
    (hg : ∀ bound, Invocation.bind address arguments = .ok bound → Grants bound.slots h granted?)
    (e : Executable) (shape : LaunchShape) (m : Machine carriers) :
    outsideOf granted? h (execute address e shape arguments m).2.buffers =
      outsideOf granted? h m.buffers := by
  unfold execute
  cases hb : Invocation.bind address arguments with
  | error fault => rfl
  | ok bound =>
      obtain ⟨last, steps, he⟩ := runBound_buffers e shape bound m
      simp only [he, outsideOf_foldl outsideOf_release]
      exact (steps.outside (hg bound hb)).trans (outsideOf_foldl outsideOf_acquire bound.locks _)

end Launches

/-! ## Slots -/

/-- The slot that an argument gets. -/
def slotOf : BoundArgument → Slot
  | .buffer handle type access => if access.writes then .exclusive handle type else .shared handle type
  | .scalar value => .scalar value

namespace Invocation

variable {arguments : List BoundArgument} {l k : LockRequest} {n : Nat}

theorem mem_lockRequests (h : l ∈ lockRequests n arguments) :
    n ≤ l.index ∧ ∃ access, arguments[l.index - n]? = some (.buffer l.handle l.type access) ∧
      access.writes = l.exclusively := by
  induction arguments generalizing n with
  | nil => cases h
  | cons x rest ih =>
      have later (h : l ∈ lockRequests (n + 1) rest) : n ≤ l.index ∧ ∃ access,
          (x :: rest)[l.index - n]? = some (.buffer l.handle l.type access) ∧
            access.writes = l.exclusively := by
        obtain ⟨hn, access, ha, hw⟩ := ih h
        refine ⟨by omega, access, ?_, hw⟩
        rw [show l.index - n = l.index - (n + 1) + 1 by omega]
        exact ha
      cases x with
      | scalar value => exact later h
      | buffer handle type access =>
          rcases List.mem_cons.mp h with rfl | h
          · exact ⟨Nat.le_refl _, access, by simp, rfl⟩
          · exact later h

/-- An argument has one lock at most. -/
theorem lockRequests_index_inj (hl : l ∈ lockRequests n arguments)
    (hk : k ∈ lockRequests n arguments) (hi : l.index = k.index) : l = k := by
  obtain ⟨-, access, ha, hw⟩ := mem_lockRequests hl
  obtain ⟨-, access', ha', hw'⟩ := mem_lockRequests hk
  obtain ⟨index, handle, type, exclusively⟩ := l
  obtain ⟨index', handle', type', exclusively'⟩ := k
  cases hi
  simp only at ha ha' hw hw'
  rw [ha'] at ha
  cases ha
  rw [← hw, ← hw']

theorem exists_lockRequest {handle : Handle} {type : ElementType} {access : Access}
    (h : .buffer handle type access ∈ arguments) (n : Nat) :
    ∃ index, ⟨index, handle, type, access.writes⟩ ∈ lockRequests n arguments := by
  induction arguments generalizing n with
  | nil => cases h
  | cons x rest ih =>
      rcases List.mem_cons.mp h with rfl | h
      · exact ⟨n, List.mem_cons_self⟩
      · obtain ⟨index, hi⟩ := ih h (n + 1)
        cases x with
        | scalar value => exact ⟨index, hi⟩
        | buffer handle type access => exact ⟨index, List.mem_cons_of_mem _ hi⟩

theorem conflict_comm (l k : LockRequest) : conflict l k = conflict k l := by
  simp only [conflict, Bool.or_comm l.exclusively]
  rw [BEq.comm]

/-- Locks that conflict are caught, except for a lock with itself. -/
theorem eq_of_conflict {locks : List LockRequest} (ha : aliased? locks = none) (hl : l ∈ locks)
    (hk : k ∈ locks) (hc : conflict l k = true) : l = k := by
  induction locks with
  | nil => cases hl
  | cons x rest ih =>
      simp only [aliased?] at ha
      split at ha
      · cases ha
      · next hx =>
          have hx : ∀ y ∈ rest, ¬ conflict x y = true := by simpa using hx
          rcases List.mem_cons.mp hl with rfl | hl'
          · rcases List.mem_cons.mp hk with rfl | hk'
            · rfl
            · exact absurd hc (hx k hk')
          · rcases List.mem_cons.mp hk with rfl | hk'
            · exact absurd (conflict_comm l k ▸ hc) (hx l hl')
            · exact ih ha hl' hk'

/-- Granted one after another, the locks fill the slots from the first to the last. -/
theorem foldl_grant (slots : List (Option Slot)) :
    (lockRequests slots.length arguments).foldl grant (slots ++ scalarSlots arguments) =
      slots ++ arguments.map (some ∘ slotOf) := by
  induction arguments generalizing slots with
  | nil => rfl
  | cons x rest ih =>
      have ih := ih (slots ++ [some (slotOf x)])
      rw [List.length_append, List.length_singleton, List.append_assoc, List.append_assoc] at ih
      cases x with
      | scalar value => exact ih
      | buffer handle type access =>
          have hs : grant (slots ++ none :: scalarSlots rest)
              ⟨slots.length, handle, type, access.writes⟩ =
                slots ++ some (slotOf (.buffer handle type access)) :: scalarSlots rest := by
            simp only [grant, List.set_append_right _ _ (Nat.le_refl _), Nat.sub_self]
            rfl
          rw [show scalarSlots (.buffer handle type access :: rest) = none :: scalarSlots rest from rfl,
            lockRequests, List.foldl_cons, hs]
          exact ih

/-- Each argument has a slot of its own, in whatever order the locks are granted. -/
theorem bind_slots {address : Handle → Nat} {bound : Bound}
    (h : bind address arguments = .ok bound) : bound.slots = arguments.map slotOf := by
  have hp : (lockOrder address (lockRequests 0 arguments)).Perm (lockRequests 0 arguments) :=
    List.mergeSort_perm _ _
  -- Locks of different arguments fill different slots.
  have hf : (lockOrder address (lockRequests 0 arguments)).foldl grant (scalarSlots arguments) =
      (lockRequests 0 arguments).foldl grant (scalarSlots arguments) := by
    refine hp.foldl_eq' (fun l hl k hk slots => ?_) _
    by_cases hi : l.index = k.index
    · rw [lockRequests_index_inj (hp.mem_iff.mp hl) (hp.mem_iff.mp hk) hi]
    · exact List.set_comm _ _ hi
  simp only [bind] at h
  split at h
  · cases h
  · cases h
    have hg : (lockRequests 0 arguments).foldl grant (scalarSlots arguments) =
        arguments.map (some ∘ slotOf) := foldl_grant []
    simp only [hf, hg, List.filterMap_map]
    exact congrFun List.filterMap_eq_map arguments

/-- There is something to store into for an argument that is bound for writing only. -/
theorem exclusive_mem_slots {address : Handle → Nat} {bound : Bound} {h : Handle} {t : ElementType}
    (hb : bind address arguments = .ok bound) (hs : .exclusive h t ∈ bound.slots) :
    ∃ access, .buffer h t access ∈ arguments ∧ access.writes = true := by
  rw [bind_slots hb] at hs
  obtain ⟨x, hx, he⟩ := List.mem_map.mp hs
  cases x with
  | scalar value => cases he
  | buffer handle type access =>
      cases hw : access.writes with
      | false => simp [slotOf, hw] at he
      | true =>
          simp only [slotOf, hw, if_true] at he
          cases he
          exact ⟨access, hx, hw⟩

/-- A buffer that is bound for writing is bound once. -/
theorem type_eq_of_writes {address : Handle → Nat} {bound : Bound} {h : Handle}
    {t u : ElementType} {a a' : Access} (hb : bind address arguments = .ok bound)
    (ht : .buffer h t a ∈ arguments) (hw : a.writes = true) (hu : .buffer h u a' ∈ arguments) :
    t = u := by
  obtain ⟨i, hi⟩ := exists_lockRequest ht 0
  obtain ⟨j, hj⟩ := exists_lockRequest hu 0
  have hc : conflict ⟨i, h, t, a.writes⟩ ⟨j, h, u, a'.writes⟩ = true := by simp [conflict, hw]
  simp only [bind] at hb
  split at hb
  · cases hb
  · next ha => exact congrArg LockRequest.type (eq_of_conflict ha hi hj hc)

end Invocation

/-- The bytes of a buffer. -/
def bytesOf (m : Machine carriers) (h : Handle) : Option (List UInt8) :=
  (m.buffers.get? h).map (·.memory.toList)

theorem bytesOf_eq (m : Machine carriers) (h : Handle) :
    bytesOf m h = (outsideOf none h m.buffers).map (·.2) := by
  simp only [bytesOf, outsideOf, Option.map_map]
  rfl

theorem bytesOf_of_outside {m n : Machine carriers} {h : Handle} {t : ElementType}
    {bytes : List UInt8}
    (ho : outsideOf (some t) h n.buffers = outsideOf (some t) h m.buffers)
    (hm : bytesOf m h = some bytes) :
    ∃ bytes', bytesOf n h = some bytes' ∧ bytes'.length = bytes.length ∧
      bytes'.drop (t.wholeBytes bytes.length) = bytes.drop (t.wholeBytes bytes.length) := by
  obtain ⟨a, ha, rfl⟩ := Option.map_eq_some_iff.mp hm
  rw [outsideOf, outsideOf, ha, Option.map_some] at ho
  obtain ⟨a', ha', he⟩ := Option.map_eq_some_iff.mp ho
  obtain ⟨hs, hd⟩ := Prod.mk.inj he
  refine ⟨a'.memory.toList, by rw [bytesOf, ha']; rfl, ?_, ?_⟩
  · rw [Memory.length_toList, Memory.length_toList]
    exact hs
  · rw [hs] at hd
    rw [Memory.length_toList]
    exact hd

/-- Stores two words into the first argument, and asks for the second one to write it. -/
def grasping : Implementation := fun _ => do
  let g ← Procedure.output .u32
  g.store [7, 8]
  let g ← Procedure.output .u32
  g.store [9]

/-- A buffer of six bytes and one of four. -/
def sixAndFour : Machine carriers :=
  { state := {}
    buffers := ((Store.insert {} ⟨(Memory.zeroed 6).write [1, 2, 3, 4, 5, 6], {}⟩).2.insert
      ⟨.zeroed 4, {}⟩).2 }

end Cpu

end Offload
