import Offload.Proofs.Frame
import Offload.Proofs.Lists

/-!
# Binding

Arguments are bound exactly if no buffer that one of them writes is bound to another. Each of them
then has a slot in its own place, in whatever order the locks are taken, and a launch never waits
for a lock that it holds itself.
-/

namespace Offload.Cpu

/-! ## Arguments that clash -/

/-- Two arguments bind one buffer, and one of them writes it. -/
def Clash (arguments : List BoundArgument) (i j : Nat) : Prop :=
  ∃ handle t u a b, arguments[i]? = some (.buffer handle t a) ∧
    arguments[j]? = some (.buffer handle u b) ∧ (a.writes = true ∨ b.writes = true)

namespace Invocation

variable {arguments : List BoundArgument} {locks : List LockRequest} {l k : LockRequest}
  {n i j : Nat}

theorem mem_lockRequests_of_getElem? {handle : Handle} {type : ElementType} {access : Access}
    (h : arguments[i]? = some (.buffer handle type access)) (n : Nat) :
    ⟨n + i, handle, type, access.writes⟩ ∈ lockRequests n arguments := by
  induction arguments generalizing n i with
  | nil => simp at h
  | cons x rest ih =>
      cases i with
      | zero =>
          simp only [List.getElem?_cons_zero, Option.some.injEq] at h
          subst h
          exact List.mem_cons_self
      | succ i =>
          have hr := ih h (n + 1)
          rw [Nat.add_right_comm n 1 i] at hr
          cases x with
          | scalar value => exact hr
          | buffer handle type access => exact List.mem_cons_of_mem _ hr

/-- There is one lock for each argument that binds a buffer. -/
theorem mem_lockRequests_iff : l ∈ lockRequests 0 arguments ↔
    ∃ access, arguments[l.index]? = some (.buffer l.handle l.type access) ∧
      access.writes = l.exclusively := by
  constructor
  · exact fun h => (mem_lockRequests h).2
  · rintro ⟨access, ha, hw⟩
    have hm := mem_lockRequests_of_getElem? ha 0
    rw [Nat.zero_add, hw] at hm
    exact hm

theorem lockRequests_sorted (n : Nat) (arguments : List BoundArgument) :
    (lockRequests n arguments).Pairwise fun l k => l.index < k.index := by
  induction arguments generalizing n with
  | nil => exact .nil
  | cons x rest ih =>
      cases x with
      | scalar value => exact ih (n + 1)
      | buffer handle type access => exact .cons (fun k hk => (mem_lockRequests hk).1) (ih (n + 1))

theorem conflict_iff : conflict l k = true ↔
    l.handle = k.handle ∧ (l.exclusively = true ∨ k.exclusively = true) := by
  simp only [conflict, Bool.and_eq_true, beq_iff_eq, Bool.or_eq_true]

theorem clash_iff : Clash arguments i j ↔ ∃ l ∈ lockRequests 0 arguments,
    ∃ k ∈ lockRequests 0 arguments, l.index = i ∧ k.index = j ∧ conflict l k = true := by
  constructor
  · rintro ⟨handle, t, u, a, b, hi, hj, hw⟩
    exact ⟨⟨i, handle, t, a.writes⟩, mem_lockRequests_iff.mpr ⟨a, hi, rfl⟩,
      ⟨j, handle, u, b.writes⟩, mem_lockRequests_iff.mpr ⟨b, hj, rfl⟩, rfl, rfl,
      conflict_iff.mpr ⟨rfl, hw⟩⟩
  · rintro ⟨l, hl, k, hk, rfl, rfl, hc⟩
    obtain ⟨hh, hw⟩ := conflict_iff.mp hc
    obtain ⟨a, hi, ha⟩ := mem_lockRequests_iff.mp hl
    obtain ⟨b, hj, hb⟩ := mem_lockRequests_iff.mp hk
    rw [← hh] at hj
    rw [← ha, ← hb] at hw
    exact ⟨l.handle, l.type, k.type, a, b, hi, hj, hw⟩

theorem aliased?_eq_none_iff :
    aliased? locks = none ↔ locks.Pairwise fun l k => conflict l k = false := by
  induction locks with
  | nil => simp [aliased?]
  | cons l rest ih =>
      rw [aliased?, List.pairwise_cons, ← ih]
      split
      · next h =>
          obtain ⟨k, hk, hc⟩ := List.any_eq_true.mp h
          refine iff_of_false (Option.some_ne_none _) fun h => ?_
          rw [h.1 k hk] at hc
          cases hc
      · next h =>
          rw [List.any_eq_true, not_exists] at h
          exact (and_iff_right fun k hk => by simpa using fun hc => h k ⟨hk, hc⟩).symm

/-- What is reported is the first lock that conflicts with a later one. -/
theorem aliased?_eq_some (hs : locks.Pairwise fun l k => l.index < k.index)
    (h : aliased? locks = some i) :
    (∃ l ∈ locks, ∃ k ∈ locks, l.index = i ∧ i < k.index ∧ conflict l k = true) ∧
      ∀ l ∈ locks, ∀ k ∈ locks, l.index < k.index → conflict l k = true → i ≤ l.index := by
  induction locks with
  | nil => cases h
  | cons x rest ih =>
      obtain ⟨hx, hr⟩ := List.pairwise_cons.mp hs
      rw [aliased?] at h
      split at h
      · next ha =>
          cases h
          obtain ⟨k, hk, hc⟩ := List.any_eq_true.mp ha
          refine ⟨⟨x, List.mem_cons_self, k, List.mem_cons_of_mem _ hk, rfl, hx k hk, hc⟩, ?_⟩
          intro l hl _ _ _ _
          rcases List.mem_cons.mp hl with rfl | hl
          · exact Nat.le_refl _
          · exact Nat.le_of_lt (hx l hl)
      · next ha =>
          rw [List.any_eq_true, not_exists] at ha
          obtain ⟨⟨l, hl, k, hk, hi, hlt, hc⟩, least⟩ := ih hr h
          refine ⟨⟨l, List.mem_cons_of_mem _ hl, k, List.mem_cons_of_mem _ hk, hi, hlt, hc⟩, ?_⟩
          intro l hl k hk hlt hc
          rcases List.mem_cons.mp hk with rfl | hk'
          -- The first lock of the list is later than none.
          · rcases List.mem_cons.mp hl with rfl | hl'
            · exact absurd hlt (Nat.lt_irrefl _)
            · exact absurd (hx l hl') (Nat.lt_asymm hlt)
          · rcases List.mem_cons.mp hl with rfl | hl'
            · exact absurd ⟨hk', hc⟩ (ha k)
            · exact least l hl' k hk' hlt hc

theorem bind_eq_error_iff {address : Handle → Nat} {f : Fault} :
    bind address arguments = .error f ↔
      ∃ i, aliased? (lockRequests 0 arguments) = some i ∧ f = .bufferAliasing i := by
  rw [bind]
  cases aliased? (lockRequests 0 arguments) with
  | none => simp
  | some i => simp [eq_comm]

theorem bind_eq_ok_iff {address : Handle → Nat} {bound : Bound} :
    bind address arguments = .ok bound ↔ aliased? (lockRequests 0 arguments) = none ∧
      bound = ⟨lockOrder address (lockRequests 0 arguments), arguments.map slotOf⟩ := by
  constructor
  · intro h
    have hs := bind_slots h
    simp only [bind] at h
    split at h
    · cases h
    · next ha =>
        cases h
        exact ⟨ha, congrArg (Bound.mk _) hs⟩
  · rintro ⟨ha, rfl⟩
    obtain ⟨slots, hb⟩ : ∃ slots, bind address arguments =
        .ok ⟨lockOrder address (lockRequests 0 arguments), slots⟩ := by
      simp only [bind, ha]
      exact ⟨_, rfl⟩
    have hs : slots = arguments.map slotOf := bind_slots hb
    rw [hb, hs]

/-- Binding fails where two arguments clash. -/
theorem exists_bind_error_iff {address : Handle → Nat} :
    (∃ f, bind address arguments = .error f) ↔ ∃ i j, i ≠ j ∧ Clash arguments i j := by
  constructor
  · rintro ⟨f, hf⟩
    obtain ⟨i, ha, -⟩ := bind_eq_error_iff.mp hf
    obtain ⟨⟨l, hl, k, hk, rfl, hlt, hc⟩, -⟩ := aliased?_eq_some (lockRequests_sorted 0 _) ha
    exact ⟨l.index, k.index, Nat.ne_of_lt hlt, clash_iff.mpr ⟨l, hl, k, hk, rfl, rfl, hc⟩⟩
  · rintro ⟨i, j, hij, clash⟩
    obtain ⟨l, hl, k, hk, rfl, rfl, hc⟩ := clash_iff.mp clash
    cases ha : aliased? (lockRequests 0 arguments) with
    | some i => exact ⟨_, bind_eq_error_iff.mpr ⟨i, ha, rfl⟩⟩
    | none => exact absurd (congrArg LockRequest.index (eq_of_conflict ha hl hk hc)) hij

theorem eq_bufferAliasing_of_bind {address : Handle → Nat} {f : Fault}
    (h : bind address arguments = .error f) :
    ∃ i, f = .bufferAliasing i ∧ (∃ j, i < j ∧ Clash arguments i j) ∧
      ∀ i' j', i' < j' → Clash arguments i' j' → i ≤ i' := by
  obtain ⟨i, ha, rfl⟩ := bind_eq_error_iff.mp h
  obtain ⟨⟨l, hl, k, hk, rfl, hlt, hc⟩, least⟩ := aliased?_eq_some (lockRequests_sorted 0 _) ha
  refine ⟨l.index, rfl, ⟨k.index, hlt, clash_iff.mpr ⟨l, hl, k, hk, rfl, rfl, hc⟩⟩, ?_⟩
  intro i' j' hij clash
  obtain ⟨l', hl', k', hk', rfl, rfl, hc'⟩ := clash_iff.mp clash
  exact least l' hl' k' hk' hij hc'

end Invocation

/-! ## What slots show -/

/-- An argument as its kernel has it: a buffer for reading or for writing, with its type, its length
and its bytes, or a constant. -/
inductive Content where
  | buffer (handle : Handle) (type : ElementType) (exclusively : Bool) (memory? : Option Memory)
  | scalar (value : Scalar)

def contentOf (s : Store Allocation) : BoundArgument → Content
  | .buffer handle type access =>
    .buffer handle type access.writes ((s.get? handle).map (·.memory))
  | .scalar value => .scalar value

def Slot.content (s : Store Allocation) : Slot → Content
  | .shared handle type => .buffer handle type false ((s.get? handle).map (·.memory))
  | .exclusive handle type => .buffer handle type true ((s.get? handle).map (·.memory))
  | .scalar value => .scalar value

theorem slotOf_content (s : Store Allocation) (x : BoundArgument) :
    (slotOf x).content s = contentOf s x := by
  cases x with
  | scalar value => rfl
  | buffer handle type access =>
      simp only [slotOf, contentOf]
      cases access.writes <;> rfl

/-- Locks do not touch bytes. -/
theorem memory?_acquireAll (locks : List LockRequest) (s : Store Allocation) (h : Handle) :
    ((locks.foldl Invocation.acquire s).get? h).map (·.memory) =
      (s.get? h).map (·.memory) := by
  induction locks generalizing s with
  | nil => rfl
  | cons l rest ih =>
      refine (ih _).trans (Store.map_get?_update ?_ s l.handle h)
      exact fun _ => rfl

theorem content_acquireAll (locks : List LockRequest) (s : Store Allocation) (slot : Slot) :
    slot.content (locks.foldl Invocation.acquire s) = slot.content s := by
  cases slot with
  | shared handle type => simp only [Slot.content, memory?_acquireAll]
  | exclusive handle type => simp only [Slot.content, memory?_acquireAll]
  | scalar value => rfl

/-! ## Locks -/

/-- A lock is to be had beside those that are held. -/
def Locks.Admits (l : Locks) (exclusively : Bool) : Prop :=
  l.exclusive = 0 ∧ (exclusively = true → l.shared = 0)

section Locks

variable {taken : List LockRequest} {l : LockRequest}

theorem locksOn_eq_zero {h : Handle} {exclusively : Bool}
    (hn : ∀ k ∈ taken, k.handle = h → k.exclusively ≠ exclusively) :
    locksOn h exclusively taken = 0 := by
  refine List.countP_eq_zero.mpr fun k hk => ?_
  simpa using hn k hk

/-- Locks that do not conflict with `l` do not decide whether it is to be had. -/
theorem admits_acquireAll (hc : ∀ k ∈ taken, Invocation.conflict k l = false)
    {s : Store Allocation} {c : Counted Allocation} (hs : s.cell? l.handle = some c) :
    ∃ d, (taken.foldl Invocation.acquire s).cell? l.handle = some d ∧
      (d.value.locks.Admits l.exclusively ↔ c.value.locks.Admits l.exclusively) := by
  have hl := ((Lends.refl s).acquireAll taken).cell l.handle
  rw [hs] at hl
  generalize (taken.foldl Invocation.acquire s).cell? l.handle = d? at hl
  cases hl with
  | @some _ d hcd =>
      have apart : ∀ k ∈ taken, k.handle = l.handle →
          k.exclusively = false ∧ l.exclusively = false := by
        intro k hk hh
        have := hc k hk
        simpa [Invocation.conflict, hh] using this
      have noWriter : locksOn l.handle true (taken ++ []) = 0 := by
        rw [List.append_nil]
        exact locksOn_eq_zero fun k hk hh => by simp [(apart k hk hh).1]
      refine ⟨d, rfl, ?_⟩
      rw [Locks.Admits, Locks.Admits, hcd.exclusive, noWriter, Nat.add_zero]
      refine and_congr_right fun _ => forall_congr' fun hw => ?_
      have noReader : locksOn l.handle false (taken ++ []) = 0 := by
        rw [List.append_nil]
        refine locksOn_eq_zero fun k hk hh => ?_
        rw [(apart k hk hh).2] at hw
        cases hw
      rw [hcd.shared, noReader, Nat.add_zero]

end Locks

/-! ## Binding -/

namespace Invocation

/-- What is bound goes with its arguments: each has its slot, and its lock if it is a buffer. No two
locks are in each other's way. -/
structure Bound.Pairs (bound : Bound) (address : Handle → Nat) (arguments : List BoundArgument) :
    Prop where
  slots : ∀ s, bound.slots.map (·.content (bound.locks.foldl acquire s)) =
    arguments.map (contentOf s)
  locks : ∀ l, l ∈ bound.locks ↔ ∃ access,
    arguments[l.index]? = some (.buffer l.handle l.type access) ∧ access.writes = l.exclusively
  once : bound.locks.Pairwise fun l k => l.index ≠ k.index
  ordered : bound.locks.Pairwise fun l k => address l.handle ≤ address k.handle
  apart : bound.locks.Pairwise fun l k =>
    l.handle = k.handle → l.exclusively = false ∧ k.exclusively = false
  /-- Whether a lock is to be had is up to the locks of others. -/
  free : ∀ taken l later, bound.locks = taken ++ l :: later →
    ∀ s c, s.cell? l.handle = some c → ∃ d,
      (taken.foldl acquire s).cell? l.handle = some d ∧
        (d.value.locks.Admits l.exclusively ↔ c.value.locks.Admits l.exclusively)

variable {arguments : List BoundArgument} {address : Handle → Nat} {bound : Bound}

theorem lockOrder_sorted (address : Handle → Nat) (requests : List LockRequest) :
    (lockOrder address requests).Pairwise fun l k => address l.handle ≤ address k.handle :=
  mergeSort_sorted (fun l => address l.handle) requests

theorem pairs_of_bind (h : bind address arguments = .ok bound) : bound.Pairs address arguments := by
  obtain ⟨ha, rfl⟩ := bind_eq_ok_iff.mp h
  have hp : (lockOrder address (lockRequests 0 arguments)).Perm (lockRequests 0 arguments) :=
    List.mergeSort_perm _ _
  have apart : (lockOrder address (lockRequests 0 arguments)).Pairwise fun l k =>
      conflict l k = false := by
    refine (hp.pairwise_iff fun {l k} hc => ?_).mpr (aliased?_eq_none_iff.mp ha)
    rwa [conflict_comm]
  refine ⟨fun s => ?_, fun l => ?_, ?_, lockOrder_sorted address _, ?_, ?_⟩
  · simp only [List.map_map, content_acquireAll]
    exact List.map_congr_left fun x _ => slotOf_content s x
  · rw [← mem_lockRequests_iff]
    exact hp.mem_iff
  · refine (hp.pairwise_iff fun {l k} hne => hne.symm).mpr ?_
    exact (lockRequests_sorted 0 arguments).imp Nat.ne_of_lt
  · refine apart.imp fun {l k} hc hh => ?_
    simpa [conflict, hh] using hc
  · intro taken l later he s c hs
    simp only at he
    rw [he, List.pairwise_append] at apart
    exact admits_acquireAll (fun k hk => apart.2.2 k hk l List.mem_cons_self) hs

/-- Arguments are bound unless two of them clash, and the fault names the first that clashes with a
later one. What is bound goes with its arguments, wherever the buffers are. -/
theorem bind_pairs (address : Handle → Nat) (arguments : List BoundArgument) :
    ((∃ f, bind address arguments = .error f) ↔ ∃ i j, i ≠ j ∧ Clash arguments i j) ∧
    (∀ f, bind address arguments = .error f → ∃ i, f = .bufferAliasing i ∧
      (∃ j, i < j ∧ Clash arguments i j) ∧
        ∀ i' j', i' < j' → Clash arguments i' j' → i ≤ i') ∧
    ∀ bound, bind address arguments = .ok bound → bound.Pairs address arguments :=
  ⟨exists_bind_error_iff, fun _ => eq_bufferAliasing_of_bind, fun _ => pairs_of_bind⟩

end Invocation

end Offload.Cpu
