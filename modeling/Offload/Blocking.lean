import Offload.Element
import Offload.Word

/-!
# Row blocks

How many rows one task takes when rows are assigned to cluster centroids: few enough that the rows
and the centroid table fit a cache, and such that the number of blocks suits the number of workers.
-/

namespace Offload.Blocking

/-- Bytes of the two inner data caches. -/
structure Caches where
  l1 : Nat := 32 * 1024
  l2 : Nat := 1024 * 1024

def defaultBlock : Nat := 96

/-- Largest block taken from the outer cache, for elements of eight bytes. -/
def outerCap : Nat := 496

/-- The number of blocks is rounded down to a multiple of this. -/
def groupSize : Nat := 56

/-- The nearest number that 53 binary digits and zeros behind them can say; of two that are equally
near, the one whose last digit is even. -/
def toDouble (n : Nat) : Nat :=
  let unit := Nat.pow 2 (n.log2 - 52)
  let whole := n / unit
  let rest := n % unit
  if unit < 2 * rest ∨ (2 * rest = unit ∧ whole % 2 = 1) then (whole + 1) * unit else whole * unit

/-- The binary digits of 0.8 as a double, of which 53 stand behind the point. -/
def fourFifthsDigits : Nat := 0x1999999999999A

/-- Four fifths, in double precision, as a word. -/
def fourFifths (n : Nat) : Nat :=
  min (toDouble (toDouble n * fourFifthsDigits) / Nat.pow 2 53) (Word.limit - 1)

/-- Rows that a cache of `bytes` bytes could hold beside the centroids; none where the sizes leave
the word range or no row needs space. -/
def rowsBeside (t : ElementType) (bytes dim clusters : Nat) : Except Panic Nat := do
  let elements ← Word.div bytes t.size
  let free := match Word.mul? clusters dim with
    | some centroids => elements - centroids
    | none => 0
  if clusters + dim < Word.limit ∧ clusters + dim ≠ 0 then
    Word.div free (clusters + dim)
  else
    return 0

/-- Block size for elements `scale` times narrower than eight bytes, from the rows that fit the
inner and the outer cache. -/
def estimate (scale inner outer : Nat) : Except Panic Nat := do
  let low ← Word.mul 256 scale
  let high ← Word.mul 512 scale
  if low ≤ inner ∧ inner ≤ high then
    Word.mul (← Word.div inner 16) 16
  else if 8 ≤ outer ∧ outer ≤ high then
    Word.mul (← Word.div outer 8) 8
  else if high ≤ outer then
    Word.mul outerCap scale
  else
    return defaultBlock

/-- Adjusts a block size so that whole blocks come in groups, if there are enough of them. -/
def regroup (rows block : Nat) : Except Panic Nat := do
  let groups ← Word.div (← Word.div rows block) groupSize
  let blocks ← Word.mul groups groupSize
  if 0 < blocks then Word.div rows blocks else return block

/-- Block size before regrouping, with `usable` the share of a cache that a block may fill. -/
def estimateFor (usable : Nat → Nat) (t : ElementType) (dim clusters : Nat) (caches : Caches) :
    Except Panic Nat := do
  let scale ← Word.div 8 t.size
  let inner ← rowsBeside t caches.l1 dim clusters
  let outer ← rowsBeside t caches.l2 dim clusters
  estimate (max scale 1) (usable inner) (usable outer)

/-- Block size after regrouping, with `usable` the share of a cache that a block may fill. -/
def blockSizeFor (usable : Nat → Nat) (t : ElementType) (rows dim clusters : Nat)
    (caches : Caches) : Except Panic Nat := do
  regroup rows (← estimateFor usable t dim clusters caches)

/-- Rows per block for `rows` rows of `dim` features and `clusters` centroids. -/
def blockSize (t : ElementType) (rows dim clusters : Nat) (caches : Caches) : Except Panic Nat :=
  blockSizeFor fourFifths t rows dim clusters caches

end Offload.Blocking
