/-!
# Lists

What is used of lists in more than one place.
-/

namespace Offload

theorem mapM_eq_ok {ε α β : Type} {f : α → Except ε β} {g : α → β} {l : List α}
    (h : ∀ a ∈ l, f a = .ok (g a)) : l.mapM f = .ok (l.map g) := by
  induction l with
  | nil => rfl
  | cons a rest ih =>
      obtain ⟨ha, hr⟩ := List.forall_mem_cons.mp h
      rw [List.mapM_cons, ha, ih hr]
      rfl

theorem mergeSort_sorted {α : Type} (key : α → Nat) (l : List α) :
    (l.mergeSort fun a b => key a ≤ key b).Pairwise fun a b => key a ≤ key b := by
  let le (a b : α) : Bool := key a ≤ key b
  have trans (a b c : α) : le a b → le b c → le a c := by
    simpa [le] using Nat.le_trans
  have total (a b : α) : le a b || le b a := by
    simpa [le] using Nat.le_total _ _
  simpa [le] using List.pairwise_mergeSort trans total l

theorem nodup_append_singleton {α : Type} {l : List α} {a : α} :
    (l ++ [a]).Nodup ↔ l.Nodup ∧ a ∉ l := by
  rw [List.nodup_append]
  constructor
  · rintro ⟨hn, _, hd⟩
    exact ⟨hn, fun hm => hd a hm a (List.mem_singleton_self a) rfl⟩
  · rintro ⟨hn, hm⟩
    refine ⟨hn, by simp, fun other ho _ hs => ?_⟩
    rintro rfl
    exact hm (List.mem_singleton.mp hs ▸ ho)

end Offload
