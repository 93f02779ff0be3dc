/-!
# Counted stores

Values behind handles, each with the number of references to it. A value is dropped together with
its last reference, and its handle is not used again.
-/

namespace Offload

/-- Name of a value in a store. -/
structure Handle where
  index : Nat
  deriving DecidableEq, Repr

/-- A value and the number of references to it, of which there is at least one. -/
structure Counted (α : Type) where
  value : α
  refs : Nat
  refs_pos : 0 < refs

namespace Counted

variable {α : Type}

def retain (c : Counted α) : Counted α :=
  { c with refs := c.refs + 1, refs_pos := Nat.succ_pos _ }

/-- Nothing is left once the last reference is given back. -/
def release? (c : Counted α) : Option (Counted α) :=
  if h : 1 < c.refs then some { c with refs := c.refs - 1, refs_pos := Nat.sub_pos_of_lt h } else none

theorem release?_retain (c : Counted α) : c.retain.release? = some c := by
  have h : 1 < c.retain.refs := Nat.succ_lt_succ c.refs_pos
  simp only [release?, dif_pos h]
  rfl

end Counted

/-- Values by handle. -/
@[ext]
structure Store (α : Type) where
  cells : Array (Option (Counted α)) := #[]

namespace Store

variable {α : Type}

def cell? (s : Store α) (h : Handle) : Option (Counted α) :=
  s.cells[h.index]?.join

def get? (s : Store α) (h : Handle) : Option α :=
  (s.cell? h).map (·.value)

/-- References to a value; none to one that is gone. -/
def refs (s : Store α) (h : Handle) : Nat :=
  ((s.cell? h).map (·.refs)).getD 0

/-- The handle the next value gets. -/
def fresh (s : Store α) : Handle := ⟨s.cells.size⟩

/-- Adds a value with one reference, held by whoever gets the handle. -/
def insert (s : Store α) (value : α) : Handle × Store α :=
  (s.fresh, ⟨s.cells.push (some ⟨value, 1, Nat.one_pos⟩)⟩)

/-- Changes the cell of a value that is there. -/
def adjust (s : Store α) (h : Handle) (f : Counted α → Option (Counted α)) : Store α :=
  ⟨s.cells.modify h.index (Option.bind · f)⟩

/-- Changes a value in place. -/
def update (s : Store α) (h : Handle) (f : α → α) : Store α :=
  s.adjust h fun c => some { c with value := f c.value }

def retain (s : Store α) (h : Handle) : Store α :=
  s.adjust h fun c => some c.retain

def release (s : Store α) (h : Handle) : Store α :=
  s.adjust h Counted.release?

def retainAll (s : Store α) (hs : List Handle) : Store α :=
  hs.foldl retain s

def releaseAll (s : Store α) (hs : List Handle) : Store α :=
  hs.foldl release s

variable {s t : Store α} {h k : Handle} {f g : Counted α → Option (Counted α)}

theorem fresh_adjust (s : Store α) : (s.adjust h f).fresh = s.fresh := by
  simp only [fresh, adjust, Array.size_modify]

theorem cell?_adjust_self : (s.adjust h f).cell? h = (s.cell? h).bind f := by
  simp only [cell?, adjust, Array.getElem?_modify, if_true]
  cases s.cells[h.index]? <;> rfl

theorem cell?_adjust_ne (hk : k ≠ h) : (s.adjust h f).cell? k = s.cell? k := by
  have hi : ¬ h.index = k.index := fun he => hk (congrArg Handle.mk he).symm
  simp only [cell?, adjust, Array.getElem?_modify, if_neg hi]

theorem cell?_insert (s : Store α) (value : α) (h : Handle) :
    (s.insert value).2.cell? h =
      if h = s.fresh then some ⟨value, 1, Nat.one_pos⟩ else s.cell? h := by
  obtain ⟨index⟩ := h
  simp only [insert, cell?, fresh, Array.getElem?_push, Handle.mk.injEq]
  split <;> rfl

theorem get?_insert (s : Store α) (value : α) :
    (s.insert value).2.get? (s.insert value).1 = some value := by
  simp [get?, cell?, insert, fresh]

theorem cell?_fresh (s : Store α) : s.cell? s.fresh = none := by
  simp [cell?, fresh]

/-- Stores of one length that agree on all handles are the same. -/
theorem ext_cell? (hf : s.fresh = t.fresh) (hc : ∀ h, s.cell? h = t.cell? h) : s = t := by
  have hs : s.cells.size = t.cells.size := congrArg Handle.index hf
  apply Store.ext
  apply Array.ext hs
  intro i hi hi'
  have h := hc ⟨i⟩
  simpa [cell?, hi, hi'] using h

theorem adjust_adjust_self : (s.adjust h f).adjust h g = s.adjust h fun c => (f c).bind g := by
  apply Store.ext
  apply Array.ext_getElem?
  intro i
  simp only [adjust, Array.getElem?_modify]
  split
  · simp [Option.bind_assoc, Function.comp_def]
  · rfl

theorem adjust_comm (hk : k ≠ h) : (s.adjust h f).adjust k g = (s.adjust k g).adjust h f := by
  have hi : h.index ≠ k.index := fun he => hk (congrArg Handle.mk he).symm
  apply Store.ext
  apply Array.ext_getElem?
  intro i
  simp only [adjust, Array.getElem?_modify]
  by_cases hh : h.index = i
  · simp [hh, show k.index ≠ i from fun he => hi (hh.trans he.symm)]
  · simp [hh]

theorem release_retain : (s.retain h).release h = s := by
  rw [retain, release, adjust_adjust_self]
  apply Store.ext
  apply Array.ext_getElem?
  intro i
  simp only [adjust, Array.getElem?_modify, Option.bind_some, Counted.release?_retain]
  split
  · simp
  · rfl

theorem retain_comm : (s.retain h).retain k = (s.retain k).retain h := by
  by_cases hk : k = h
  · rw [hk]
  · exact adjust_comm hk

theorem release_comm : (s.release h).release k = (s.release k).release h := by
  by_cases hk : k = h
  · rw [hk]
  · exact adjust_comm hk

/-! In which order references are taken or given back makes no difference. -/

variable {hs ks : List Handle}

theorem retainAll_perm (s : Store α) (h : hs.Perm ks) : s.retainAll hs = s.retainAll ks :=
  h.foldl_eq' (fun _ _ _ _ _ => retain_comm) s

theorem releaseAll_perm (s : Store α) (h : hs.Perm ks) : s.releaseAll hs = s.releaseAll ks :=
  h.foldl_eq' (fun _ _ _ _ _ => release_comm) s

theorem retainAll_append (s : Store α) (hs ks : List Handle) :
    s.retainAll (hs ++ ks) = (s.retainAll hs).retainAll ks :=
  List.foldl_append

theorem releaseAll_append (s : Store α) (hs ks : List Handle) :
    s.releaseAll (hs ++ ks) = (s.releaseAll hs).releaseAll ks :=
  List.foldl_append

/-- Whoever gives back all that it took leaves the store as it was. -/
theorem releaseAll_retainAll (s : Store α) (hs : List Handle) :
    (s.retainAll hs).releaseAll hs = s := by
  induction hs with
  | nil => rfl
  | cons h rest ih =>
      have hp : s.retainAll (h :: rest) = (s.retainAll rest).retain h :=
        (s.retainAll_perm (@List.perm_append_comm _ [h] rest)).trans (s.retainAll_append rest [h])
      rw [hp]
      show ((s.retainAll rest).retain h |>.release h).releaseAll rest = s
      rw [release_retain, ih]

end Store

end Offload
