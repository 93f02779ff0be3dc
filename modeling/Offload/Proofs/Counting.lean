import Offload.Places

/-!
# Counts of native handles

What references rely on in the native side that counts them, and what each of them does to the
counts. Handles in a table and values in a store are counted that way.
-/

namespace Offload

variable {σ η : Type} [DecidableEq η]

/-- Handles that are counted as they should be: one that is alive can be retained and released, and
goes with its last reference. -/
structure Counting (σ η : Type) [DecidableEq η] where
  kind : HandleKind σ η
  /-- References to a handle that is alive. -/
  count? : σ → η → Option Nat
  retain_alive : ∀ {raw s n}, count? s raw = some n → ∀ k,
    count? (kind.retain raw s).2 k = if k = raw then some (n + 1) else count? s k
  release_alive : ∀ {raw s n}, count? s raw = some n → ∀ k,
    count? (kind.release raw s).2 k =
      if k = raw then (if n ≤ 1 then none else some (n - 1)) else count? s k

/-! ## Tables and stores -/

theorem lookup_cons {α : Type} (key k : η) (a : α) (entries : List (η × α)) :
    ((key, a) :: entries).lookup k = if k = key then some a else entries.lookup k := by
  by_cases hk : k = key
  · rw [hk, List.lookup_cons_self, if_pos rfl]
  · rw [List.lookup_cons, beq_false_of_ne hk, if_neg hk]

namespace HandleTable

theorem lookup_filter (raw k : η) (counts : List (η × Nat)) :
    (counts.filter (·.1 != raw)).lookup k = if k = raw then none else counts.lookup k := by
  induction counts with
  | nil => split <;> rfl
  | cons entry rest ih =>
      obtain ⟨key, n⟩ := entry
      by_cases hkey : key = raw
      · rw [List.filter_cons_of_neg (by simp [hkey]), ih, lookup_cons, hkey]
        split <;> rfl
      · rw [List.filter_cons_of_pos (by simp [hkey]), lookup_cons, lookup_cons, ih]
        by_cases hk : k = raw
        · rw [if_pos hk, if_pos hk, hk, if_neg (Ne.symm hkey)]
        · rw [if_neg hk, if_neg hk]

theorem count?_set (t : HandleTable η) (raw k : η) (n : Nat) :
    (t.set raw n).count? k = if k = raw then some n else t.count? k := by
  rw [count?, set, lookup_cons, lookup_filter]
  split <;> rfl

theorem count?_destroy (t : HandleTable η) (raw k : η) :
    (t.destroy raw).count? k = if k = raw then none else t.count? k :=
  lookup_filter raw k t.counts

def counting (name : String) : Counting (HandleTable η) η where
  kind := kind name
  count? := count?
  retain_alive h k := by
    simp only [kind, retain, h]
    exact count?_set _ _ _ _
  release_alive {raw s n} h k := by
    simp only [kind, release, h]
    by_cases hn : n ≤ 1
    · rw [if_pos hn, if_pos hn]
      exact count?_destroy s raw k
    · rw [if_neg hn, if_neg hn]
      exact count?_set s raw k (n - 1)

end HandleTable

namespace Store

def counting (α : Type) : Counting (Store α) Handle where
  kind := kind
  count? s h := (s.cell? h).map (·.refs)
  retain_alive {raw s n} h k := by
    obtain ⟨c, hc, rfl⟩ := Option.map_eq_some_iff.mp h
    simp only [kind, retain]
    split
    · next hk => rw [hk, cell?_adjust_self, hc]; rfl
    · next hk => rw [cell?_adjust_ne hk]
  release_alive {raw s n} h k := by
    obtain ⟨c, hc, rfl⟩ := Option.map_eq_some_iff.mp h
    simp only [kind, release]
    split
    · next hk =>
        rw [hk, cell?_adjust_self, hc, Option.bind_some, Counted.release?]
        by_cases hn : 1 < c.refs
        · rw [dif_pos hn, if_neg (Nat.not_le.mpr hn)]; rfl
        · rw [dif_neg hn, if_pos (Nat.not_lt.mp hn)]; rfl
    · next hk => rw [cell?_adjust_ne hk]

end Store

/-! ## Observation -/

/-- A retain or release that was asked for. -/
structure NativeCall (η : Type) where
  retains : Bool
  raw : η
  /-- Whether the handle was alive. -/
  alive : Bool

/-- A native side, with the calls that it got. -/
structure Observed (σ η : Type) where
  native : σ
  calls : List (NativeCall η) := []

namespace Counting

/-- The same handles, with each call written down. -/
def observed (c : Counting σ η) : HandleKind (Observed σ η) η where
  name := c.kind.name
  retain raw o :=
    ((c.kind.retain raw o.native).1,
      ⟨(c.kind.retain raw o.native).2, o.calls ++ [⟨true, raw, (c.count? o.native raw).isSome⟩]⟩)
  release raw o :=
    ((c.kind.release raw o.native).1,
      ⟨(c.kind.release raw o.native).2, o.calls ++ [⟨false, raw, (c.count? o.native raw).isSome⟩]⟩)

end Counting

/-! ## References -/

/-- The count of a handle with `n` references; without any, it is gone. -/
def countOf (n : Nat) : Option Nat := if n = 0 then none else some n

/-- References of `r` to `raw`. -/
def Reference.holds (r : Reference η) (raw : η) : Nat := if r.raw? = some raw then 1 else 0

/-- What `P` says of a native side with `n` references to each handle stays true while a handle that
has a reference is given another, and while references are given back. -/
structure Tracks (k : HandleKind σ η) (P : σ → (η → Nat) → Prop) : Prop where
  retain : ∀ {s n raw}, P s n → 0 < n raw →
    P (k.retain raw s).2 fun j => n j + if j = raw then 1 else 0
  release : ∀ {s n raw}, P s (fun j => n j + if j = raw then 1 else 0) → P (k.release raw s).2 n

omit [DecidableEq η] in
theorem of_counts {P : (η → Nat) → Prop} {n m : η → Nat} (h : P n) (hn : ∀ j, n j = m j) : P m :=
  (funext hn : n = m) ▸ h

namespace Tracks

variable {k : HandleKind σ η} {P : σ → (η → Nat) → Prop} {s : σ} {n : η → Nat} {r : Reference η}

theorem drop (t : Tracks k P) (h : P s fun j => n j + r.holds j) : P (r.drop k s) n := by
  obtain ⟨raw?⟩ := r
  cases raw? with
  | none => exact of_counts h fun j => rfl
  | some raw =>
      refine t.release (of_counts h fun j => ?_)
      simp only [Reference.holds, Option.some.injEq, eq_comm]

/-- A copy is one more reference; that the handle has one, the original guarantees. -/
theorem clone (t : Tracks k P) (h : P s n) (hr : ∀ j, r.holds j ≤ n j) :
    P (r.clone k s).2 fun j => n j + r.holds j := by
  obtain ⟨raw?⟩ := r
  cases raw? with
  | none => exact of_counts h fun j => rfl
  | some raw =>
      have hn : 0 < n raw := Nat.lt_of_lt_of_le (by simp [Reference.holds]) (hr raw)
      refine of_counts (t.retain h hn) fun j => ?_
      simp only [Reference.holds, Option.some.injEq, eq_comm]

end Tracks

/-- There are `n` references to each handle, and no call was about a handle that was gone. -/
structure Backed (c : Counting σ η) (o : Observed σ η) (n : η → Nat) : Prop where
  count : ∀ raw, c.count? o.native raw = countOf (n raw)
  alive : ∀ call ∈ o.calls, call.alive = true

namespace Backed

variable {c : Counting σ η} {o : Observed σ η} {n m : η → Nat} {raw : η}

theorem congr (h : Backed c o n) (hn : ∀ k, n k = m k) : Backed c o m :=
  ⟨fun k => by rw [h.count, hn], h.alive⟩

theorem count_alive (h : Backed c o n) (hn : 0 < n raw) :
    c.count? o.native raw = some (n raw) := by
  rw [h.count, countOf, if_neg (Nat.ne_of_gt hn)]

theorem retain (h : Backed c o n) (hn : 0 < n raw) :
    Backed c (c.observed.retain raw o).2 fun k => n k + if k = raw then 1 else 0 := by
  have ha := h.count_alive hn
  refine ⟨fun k => ?_, fun call hc => ?_⟩
  · refine (c.retain_alive ha k).trans ?_
    split
    · next hk => rw [hk]; rfl
    · exact h.count k
  · rcases List.mem_append.mp hc with hc | hc
    · exact h.alive call hc
    · rw [List.mem_singleton.mp hc, ha]
      rfl

theorem release (h : Backed c o fun k => n k + if k = raw then 1 else 0) :
    Backed c (c.observed.release raw o).2 n := by
  have ha : c.count? o.native raw = some (n raw + 1) := by
    rw [h.count_alive (by simp), if_pos rfl]
  refine ⟨fun k => ?_, fun call hc => ?_⟩
  · refine (c.release_alive ha k).trans ?_
    split
    · next hk => rw [hk, countOf]; simp
    · next hk => rw [h.count, if_neg hk]; rfl
  · rcases List.mem_append.mp hc with hc | hc
    · exact h.alive call hc
    · rw [List.mem_singleton.mp hc, ha]
      rfl

theorem tracks : Tracks c.observed (Backed c) :=
  ⟨retain, release⟩

end Backed

omit [DecidableEq η] in
@[simp] theorem Reference.clone_fst (k : HandleKind σ η) (r : Reference η) (s : σ) :
    (r.clone k s).1 = r := by
  unfold Reference.clone
  split <;> rfl

end Offload
