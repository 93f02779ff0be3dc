import Offload.Error
import Offload.Store
import Offload.Text.Quoted

/-!
# References to native handles

A reference owns one count of a native handle, or is empty. Copying it retains the handle, dropping
it releases the handle; moving passes the count on. A retain or release that fails is put up with.
-/

namespace Offload

/-- How handles of one kind are counted, with `σ` the state that holds the counts. -/
structure HandleKind (σ η : Type) where
  name : String
  retain : η → σ → Except StatusCode Unit × σ
  release : η → σ → Except StatusCode Unit × σ

/-- The same handles, counted in a part of a larger state. -/
def HandleKind.inside {σ τ η : Type} (k : HandleKind σ η) (get : τ → σ) (set : τ → σ → τ) :
    HandleKind τ η where
  name := k.name
  retain raw s :=
    let (r, part) := k.retain raw (get s)
    (r, set s part)
  release raw s :=
    let (r, part) := k.release raw (get s)
    (r, set s part)

/-- Handles of values in a store, which are counted there. -/
def Store.kind {α : Type} : HandleKind (Store α) Handle where
  name := "arc"
  retain h s := (.ok (), s.retain h)
  release h s := (.ok (), s.release h)

/-- A place for one owned count of a handle. -/
structure Reference (η : Type) where
  raw? : Option η
  deriving DecidableEq

namespace Reference

variable {σ η : Type}

def null : Reference η := ⟨none⟩

/-- Takes over a count that the caller owns. -/
def ofRaw (raw : η) : Reference η := ⟨some raw⟩

def isNull (r : Reference η) : Bool := r.raw?.isNone

/-- Another reference to the same handle, for which a count is asked. -/
def clone (k : HandleKind σ η) (r : Reference η) (s : σ) : Reference η × σ :=
  match r.raw? with
  | none => (r, s)
  | some raw => (r, (k.retain raw s).2)

/-- Gives the owned count back. -/
def drop (k : HandleKind σ η) (r : Reference η) (s : σ) : σ :=
  match r.raw? with
  | none => s
  | some raw => (k.release raw s).2

/-- Puts another handle in the place of the held one, which is then released. -/
def reset (k : HandleKind σ η) (r : Reference η) (raw? : Option η) (s : σ) : Reference η × σ :=
  (⟨raw?⟩, r.drop k s)

def clear (k : HandleKind σ η) (r : Reference η) (s : σ) : Reference η × σ :=
  r.reset k none s

/-- Hands the count to the caller: the handle, and the empty place left behind. -/
def release (r : Reference η) : Option η × Reference η :=
  (r.raw?, null)

/-- Moves the handle to a new place: that place, and the empty one left behind. -/
def take (r : Reference η) : Reference η × Reference η :=
  (r, null)

/-- A count for the caller, beside the one that the reference keeps. -/
def share (k : HandleKind σ η) (r : Reference η) (s : σ) : Option η × σ :=
  let (copy, s) := r.clone k s
  (copy.raw?, s)

def inspect (k : HandleKind σ η) (r : Reference η) : String :=
  Text.record "ResourceRef" [("kind", Text.quoted k.name), ("null", toString r.isNull)] false

end Reference

end Offload
