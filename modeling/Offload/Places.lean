import Offload.HandleTable

/-!
# Places for references

Named places that hold references, and the operations on them. Together they own one count of a
handle for each place that holds it; counts also pass to and from the caller.
-/

namespace Offload

namespace Places

variable {σ η : Type}

/-- Sets an entry of a list in the order of names. -/
def setEntry (name : String) (r : Reference η) :
    List (String × Reference η) → List (String × Reference η)
  | [] => [(name, r)]
  | entry :: rest =>
    if name = entry.1 then (name, r) :: rest
    else if name < entry.1 then (name, r) :: entry :: rest
    else entry :: setEntry name r rest

theorem mem_setEntry {name : String} {r : Reference η} {entries : List (String × Reference η)}
    {entry : String × Reference η} (h : entry ∈ setEntry name r entries) :
    entry = (name, r) ∨ entry ∈ entries := by
  induction entries with
  | nil => exact .inl (List.mem_singleton.mp h)
  | cons e rest ih =>
      simp only [setEntry] at h
      split at h
      · exact (List.mem_cons.mp h).imp_right (List.mem_cons_of_mem _)
      split at h
      · exact List.mem_cons.mp h
      · rcases List.mem_cons.mp h with rfl | h
        · exact .inr List.mem_cons_self
        · exact (ih h).imp_right (List.mem_cons_of_mem _)

theorem setEntry_ordered {name : String} {r : Reference η} {entries : List (String × Reference η)}
    (h : entries.Pairwise (·.1 < ·.1)) : (setEntry name r entries).Pairwise (·.1 < ·.1) := by
  induction entries with
  | nil => exact List.pairwise_singleton _ _
  | cons e rest ih =>
      obtain ⟨he, hr⟩ := List.pairwise_cons.mp h
      simp only [setEntry]
      split
      · next hn => exact List.pairwise_cons.mpr ⟨fun x hx => hn ▸ he x hx, hr⟩
      split
      · next hn =>
          refine List.pairwise_cons.mpr ⟨fun x hx => ?_, h⟩
          rcases List.mem_cons.mp hx with rfl | hx
          · exact hn
          · exact String.lt_trans hn (he x hx)
      · next hne hnl =>
          refine List.pairwise_cons.mpr ⟨fun x hx => ?_, ih hr⟩
          rcases mem_setEntry hx with rfl | hx
          · have hle : e.1 ≤ name := String.not_lt.mp hnl
            exact Std.lt_of_le_of_ne hle fun h => hne h.symm
          · exact he x hx

end Places

/-- References by the names of their places, in the order of the names. -/
structure Places (η : Type) where
  entries : List (String × Reference η) := []
  ordered : entries.Pairwise (·.1 < ·.1) := by exact .nil

namespace Places

variable {σ η : Type}

def find? (p : Places η) (name : String) : Option (Reference η) :=
  p.entries.lookup name

/-- Overwrites a place, without regard to what was there. -/
def set (p : Places η) (name : String) (r : Reference η) : Places η :=
  ⟨setEntry name r p.entries, setEntry_ordered p.ordered⟩

/-- Puts a reference into a place and drops what was there. -/
def put (k : HandleKind σ η) (p : Places η) (name : String) (r : Reference η) (s : σ) :
    Places η × σ :=
  match p.find? name with
  | some old => (p.set name r, old.drop k s)
  | none => (p.set name r, s)

/-- Gives up a place. -/
def remove (k : HandleKind σ η) (p : Places η) (name : String) (s : σ) : Places η × σ :=
  match p.find? name with
  | some old =>
    (⟨p.entries.filter fun entry => entry.1 != name, p.ordered.filter _⟩, old.drop k s)
  | none => (p, s)

/-- Gives up every place, in the order of the names. -/
def removeAll (k : HandleKind σ η) (p : Places η) (s : σ) : σ :=
  p.entries.foldl (fun s entry => entry.2.drop k s) s

end Places

/-- An operation on places. -/
inductive PlaceCommand (η : Type) where
  /-- An empty reference. -/
  | empty (place : String)
  /-- Takes over a count of the caller. -/
  | adopt (place : String) (raw : η)
  | clone (place source : String)
  /-- Moves a reference; its old place becomes empty. -/
  | take (place source : String)
  | swap (place other : String)
  | reset (place : String) (raw? : Option η)
  /-- Passes the count to the caller. -/
  | release (place : String)
  /-- Gives the caller a count of its own. -/
  | share (place : String)
  | drop (place : String)
  | inspect (place : String)

/-- What a command gives to its caller. -/
inductive PlaceResult (η : Type) where
  | nothing
  | handle (raw? : Option η)
  | text (s : String)

namespace Places

variable {σ η : Type}

/-- Carries out a command. A command on a place there is not is refused, unless it gives up the
place or fills it. -/
def step (k : HandleKind σ η) (p : Places η) (s : σ) :
    PlaceCommand η → Option (PlaceResult η × Places η × σ)
  | .empty place =>
    let (p, s) := p.put k place .null s
    some (.nothing, p, s)
  | .adopt place raw =>
    let (p, s) := p.put k place (.ofRaw raw) s
    some (.nothing, p, s)
  | .clone place source => do
    let r ← p.find? source
    let (copy, s) := r.clone k s
    let (p, s) := p.put k place copy s
    return (.nothing, p, s)
  | .take place source => do
    let r ← p.find? source
    let (taken, left) := r.take
    let (p, s) := (p.set source left).put k place taken s
    return (.nothing, p, s)
  | .swap place other => do
    let r ← p.find? place
    let r' ← p.find? other
    return (.nothing, (p.set place r').set other r, s)
  | .reset place raw? => do
    let r ← p.find? place
    let (r, s) := r.reset k raw? s
    return (.nothing, p.set place r, s)
  | .release place => do
    let r ← p.find? place
    let (raw?, left) := r.release
    return (.handle raw?, p.set place left, s)
  | .share place => do
    let r ← p.find? place
    let (raw?, s) := r.share k s
    return (.handle raw?, p, s)
  | .drop place =>
    let (p, s) := p.remove k place s
    some (.nothing, p, s)
  | .inspect place => do
    let r ← p.find? place
    return (.text (r.inspect k), p, s)

end Places

end Offload
