import Offload.Word

/-!
# Nearest centroids

Labels for the rows of a table: the first of the centroids nearest to a row. Distances are of any
type with a strict order; one that is not below infinity never wins.
-/

namespace Offload.Cpu.Centroid

/-- How far apart two points are, and what is nearer. -/
structure Metric (F : Type) where
  distance : List F → List F → F
  less : F → F → Bool
  infinity : F

variable {F : Type}

/-- `count` items from `start` on. -/
def slice (items : Array F) (start count : Nat) : Except Panic (List F) :=
  if items.size < start then .error (.sliceStart items.size start)
  else if items.size - start < count then .error (.sliceEnd (items.size - start) count)
  else .ok (items.extract start (start + count)).toList

/-- The nearest point so far, and what comes of one more. -/
def better (m : Metric F) (point : List F) (best : F × Option Nat) (centroid : Nat × List F) :
    F × Option Nat :=
  let d := m.distance point centroid.2
  if m.less d best.1 then (d, some centroid.1) else best

/-- Index of the first centroid whose distance is least, if one is below infinity. -/
def nearest? (m : Metric F) (point : List F) (centroids : List (Nat × List F)) : Option Nat :=
  (centroids.foldl (better m point) (m.infinity, none)).2

/-- Rows of features, side by side in one array. -/
@[ext]
structure Table (F : Type) where
  data : Array F
  dim : Nat

def Table.row (t : Table F) (index : Nat) : Except Panic (List F) := do
  slice t.data (← Word.mul index t.dim) t.dim

/-- A label as a 32-bit integer; a row without a nearest centroid gets minus one. -/
def label (nearest? : Option Nat) : BitVec 32 :=
  match nearest? with
  | some index => BitVec.ofNat 32 index
  | none => -1

/-- Label of the row `offset` rows after `first`. -/
def assignRow (m : Metric F) (data centroids : Table F) (clusters first offset : Nat) :
    Except Panic (BitVec 32) := do
  let point ← data.row (← Word.add first offset)
  let points ← (List.range clusters).mapM fun c => return (c, ← centroids.row c)
  return label (nearest? m point points)

/-- What was made one after another, and the panic that ended it, if one did. -/
structure Progress (α : Type) where
  items : List α := []
  panic? : Option Panic := none

namespace Progress

variable {α β : Type}

def single : Except Panic α → Progress α
  | .ok a => { items := [a] }
  | .error p => { panic? := some p }

/-- Goes on, unless a panic came before. -/
def andThen (made later : Progress α) : Progress α :=
  match made.panic? with
  | none => ⟨made.items ++ later.items, later.panic?⟩
  | some _ => made

/-- What is made from each entry in turn. -/
def collect (f : α → Progress β) : List α → Progress β
  | [] => {}
  | a :: rest => (f a).andThen (collect f rest)

end Progress

/-- Labels of `count` rows from `first` on. -/
def assignRows (m : Metric F) (data centroids : Table F) (clusters first count : Nat) :
    Progress (BitVec 32) :=
  .collect (fun offset => .single (assignRow m data centroids clusters first offset))
    (List.range count)

/-- Labels of the rows in block `index`; the last block may be shorter than the others. -/
def assignBlock (m : Metric F) (data centroids : Table F) (clusters rows size index : Nat) :
    Progress (BitVec 32) :=
  match Word.mul index size with
  | .ok first => assignRows m data centroids clusters first (min size (rows - first))
  | .error p => { panic? := some p }

/-- Labels of all rows, in blocks of `size` rows. -/
def assignBlocks (m : Metric F) (data centroids : Table F) (clusters rows size : Nat) :
    Progress (BitVec 32) :=
  .collect (assignBlock m data centroids clusters rows size)
    (List.range ((rows + size - 1) / size))

end Offload.Cpu.Centroid
