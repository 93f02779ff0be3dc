import Offload.Cpu.Invocation

/-!
# Loans of buffers

What a launch takes of the buffers for as long as it runs: references, and locks. One relation
tells how far a store is from the store that it was lent by; each operation on buffers takes
something more, gives something back, or touches no more than bytes.
-/

namespace Offload.Cpu

/-- Locks on `h` among those taken. -/
def locksOn (h : Handle) (exclusively : Bool) (locks : List LockRequest) : Nat :=
  locks.countP fun l => l.handle == h && l.exclusively == exclusively

theorem locksOn_cons (h : Handle) (exclusively : Bool) (l : LockRequest)
    (locks : List LockRequest) : locksOn h exclusively (l :: locks) =
      locksOn h exclusively locks +
        if l.handle = h ∧ l.exclusively = exclusively then 1 else 0 := by
  simp [locksOn, List.countP_cons]

/-- The cell `d` is the cell `c` with what was taken on top. The bytes may differ. -/
structure Lent (held : List Handle) (locks : List LockRequest) (h : Handle)
    (c d : Counted Allocation) : Prop where
  refs : d.refs = c.refs + held.count h
  shared : d.value.locks.shared = c.value.locks.shared + locksOn h false locks
  exclusive : d.value.locks.exclusive = c.value.locks.exclusive + locksOn h true locks
  size : d.value.size = c.value.size

/-- `t` is `s` while references `held` and `locks` are taken. -/
structure Lends (held : List Handle) (locks : List LockRequest) (s t : Store Allocation) : Prop where
  fresh : t.fresh = s.fresh
  cell : ∀ h, Option.Rel (Lent held locks h) (s.cell? h) (t.cell? h)

variable {held held' : List Handle} {locks locks' : List LockRequest} {s t : Store Allocation}

theorem Lends.refl (s : Store Allocation) : Lends [] [] s s := by
  refine ⟨rfl, fun h => ?_⟩
  cases s.cell? h with
  | none => exact .none
  | some c => exact .some ⟨rfl, rfl, rfl, rfl⟩

theorem Lends.perm (h : Lends held locks s t) (hh : held.Perm held') (hl : locks.Perm locks') :
    Lends held' locks' s t := by
  refine ⟨h.fresh, fun k => ?_⟩
  have hk := h.cell k
  generalize s.cell? k = c?, t.cell? k = d? at hk ⊢
  cases hk with
  | none => exact .none
  | some hc =>
      obtain ⟨refs, shared, exclusive, size⟩ := hc
      rw [hh.count_eq] at refs
      simp only [locksOn, hl.countP_eq] at shared exclusive
      exact .some ⟨refs, shared, exclusive, size⟩

/-- A buffer that is there counts the references that are taken of it. -/
theorem Lends.refs_add (hl : Lends held locks s t) {h : Handle} (hh : (s.get? h).isSome) :
    t.refs h = s.refs h + held.count h := by
  have hc := hl.cell h
  rw [Store.get?, Option.isSome_map] at hh
  rw [Store.refs, Store.refs]
  generalize s.cell? h = c?, t.cell? h = d? at hc hh
  cases hc with
  | none => cases hh
  | some hcd => exact hcd.refs

theorem Lends.refs_eq (hl : Lends [] locks s t) (h : Handle) : t.refs h = s.refs h := by
  have hc := hl.cell h
  rw [Store.refs, Store.refs]
  generalize s.cell? h = c?, t.cell? h = d? at hc
  cases hc with
  | none => rfl
  | some hcd => exact hcd.refs

/-- An operation on one cell changes what is taken of that cell alone. -/
theorem Lends.adjust {k : Handle} {f : Counted Allocation → Option (Counted Allocation)}
    (h : Lends held locks s t)
    (hself : ∀ c d, Lent held locks k c d → ∃ d', f d = some d' ∧ Lent held' locks' k c d')
    (hother : ∀ j, j ≠ k → ∀ c d, Lent held locks j c d → Lent held' locks' j c d) :
    Lends held' locks' s (t.adjust k f) := by
  refine ⟨t.fresh_adjust.trans h.fresh, fun j => ?_⟩
  have hj := h.cell j
  by_cases hk : j = k
  · subst hk
    rw [Store.cell?_adjust_self]
    generalize s.cell? j = c?, t.cell? j = d? at hj
    cases hj with
    | none => exact .none
    | some hc =>
        obtain ⟨d', hd, hc'⟩ := hself _ _ hc
        rw [Option.bind_some, hd]
        exact .some hc'
  · rw [Store.cell?_adjust_ne hk]
    generalize s.cell? j = c?, t.cell? j = d? at hj
    cases hj with
    | none => exact .none
    | some hc => exact .some (hother j hk _ _ hc)

/-! ## References -/

theorem Lends.retain (h : Lends held locks s t) (k : Handle) :
    Lends (k :: held) locks s (t.retain k) := by
  refine h.adjust (fun c d hc => ⟨d.retain, rfl, ?_⟩) fun j hj c d hc => ?_
  · obtain ⟨refs, shared, exclusive, size⟩ := hc
    refine ⟨?_, shared, exclusive, size⟩
    rw [List.count_cons_self]
    exact congrArg (· + 1) refs
  · obtain ⟨refs, shared, exclusive, size⟩ := hc
    refine ⟨?_, shared, exclusive, size⟩
    rwa [List.count_cons_of_ne hj.symm]

theorem Lends.release {k : Handle} (h : Lends (k :: held) locks s t) :
    Lends held locks s (t.release k) := by
  refine h.adjust (fun c d hc => ?_) fun j hj c d hc => ?_
  · obtain ⟨refs, shared, exclusive, size⟩ := hc
    rw [List.count_cons_self] at refs
    have hd : 1 < d.refs := by
      have := c.refs_pos
      omega
    refine ⟨_, dif_pos hd, ⟨?_, shared, exclusive, size⟩⟩
    show d.refs - 1 = _
    omega
  · obtain ⟨refs, shared, exclusive, size⟩ := hc
    refine ⟨?_, shared, exclusive, size⟩
    rwa [List.count_cons_of_ne hj.symm] at refs

theorem Lends.retainAll (h : Lends held locks s t) (hs : List Handle) :
    Lends (hs ++ held) locks s (t.retainAll hs) := by
  induction hs generalizing held t with
  | nil => exact h
  | cons k rest ih => exact (ih (h.retain k)).perm List.perm_middle (.refl _)

theorem Lends.releaseAll {hs : List Handle} (h : Lends (hs ++ held) locks s t) :
    Lends held locks s (t.releaseAll hs) := by
  induction hs generalizing t with
  | nil => exact h
  | cons k rest ih => exact ih h.release

/-! ## Locks -/

theorem Locks.acquire_shared (l : Locks) (exclusively : Bool) :
    (l.acquire exclusively).shared = l.shared + if exclusively = false then 1 else 0 := by
  cases exclusively <;> rfl

theorem Locks.acquire_exclusive (l : Locks) (exclusively : Bool) :
    (l.acquire exclusively).exclusive = l.exclusive + if exclusively = true then 1 else 0 := by
  cases exclusively <;> rfl

theorem Locks.release_shared (l : Locks) (exclusively : Bool) :
    (l.release exclusively).shared = l.shared - if exclusively = false then 1 else 0 := by
  cases exclusively <;> rfl

theorem Locks.release_exclusive (l : Locks) (exclusively : Bool) :
    (l.release exclusively).exclusive = l.exclusive - if exclusively = true then 1 else 0 := by
  cases exclusively <;> rfl

theorem Lends.acquire (h : Lends held locks s t) (l : LockRequest) :
    Lends held (l :: locks) s (Invocation.acquire t l) := by
  refine h.adjust (fun c d hc => ⟨_, rfl, ?_⟩) fun j hj c d hc => ?_
  · obtain ⟨refs, shared, exclusive, size⟩ := hc
    refine ⟨refs, ?_, ?_, size⟩
    · simp only [locksOn_cons, true_and, Locks.acquire_shared, shared, Nat.add_assoc]
    · simp only [locksOn_cons, true_and, Locks.acquire_exclusive, exclusive, Nat.add_assoc]
  · obtain ⟨refs, shared, exclusive, size⟩ := hc
    refine ⟨refs, ?_, ?_, size⟩
    · simpa [locksOn_cons, hj.symm] using shared
    · simpa [locksOn_cons, hj.symm] using exclusive

theorem Lends.unlock {l : LockRequest} (h : Lends held (l :: locks) s t) :
    Lends held locks s (Invocation.release t l) := by
  refine h.adjust (fun c d hc => ⟨_, rfl, ?_⟩) fun j hj c d hc => ?_
  · obtain ⟨refs, shared, exclusive, size⟩ := hc
    simp only [locksOn_cons, true_and] at shared exclusive
    refine ⟨refs, ?_, ?_, size⟩
    · simp only [Locks.release_shared, shared]
      omega
    · simp only [Locks.release_exclusive, exclusive]
      omega
  · obtain ⟨refs, shared, exclusive, size⟩ := hc
    refine ⟨refs, ?_, ?_, size⟩
    · simpa [locksOn_cons, hj.symm] using shared
    · simpa [locksOn_cons, hj.symm] using exclusive

theorem Lends.acquireAll (h : Lends held locks s t) (ls : List LockRequest) :
    Lends held (ls ++ locks) s (ls.foldl Invocation.acquire t) := by
  induction ls generalizing locks t with
  | nil => exact h
  | cons l rest ih => exact (ih (h.acquire l)).perm (.refl _) List.perm_middle

theorem Lends.unlockAll {ls : List LockRequest} (h : Lends held (ls ++ locks) s t) :
    Lends held locks s (ls.foldl Invocation.release t) := by
  induction ls generalizing t with
  | nil => exact h
  | cons l rest ih => exact ih h.unlock

/-! ## Bytes -/

theorem Lends.store (h : Lends held locks s t) (type : ElementType) (values : List type.Bits)
    (slot : Slot) : Lends held locks s (slot.store t type values) := by
  cases slot with
  | shared handle other => exact h
  | scalar value => exact h
  | exclusive handle other =>
      simp only [Slot.store]
      split
      · refine h.adjust (fun c d hc => ⟨_, rfl, ?_⟩) fun _ _ _ _ hc => hc
        exact ⟨hc.refs, hc.shared, hc.exclusive, hc.size⟩
      · exact h

end Offload.Cpu
