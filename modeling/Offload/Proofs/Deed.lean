import Offload.Proofs.Call
import Offload.Proofs.Touch
import Offload.Proofs.WordCopy

/-!
# What hosts do

Calls on bytes, references that are given back, allocations and launches, one after another. As long
as a buffer is not dropped, all of that is done to one array of bytes.
-/

namespace Offload

/-! ## Values that are given back -/

namespace Store

variable {α : Type} {s t u : Store α} {h k : Handle} {f : Counted α → Option (Counted α)} {a : α}

theorem get?_adjust_ne (hk : k ≠ h) : (s.adjust h f).get? k = s.get? k := by
  rw [get?, get?, cell?_adjust_ne hk]

theorem get?_retainAll (s : Store α) (hs : List Handle) (k : Handle) :
    (s.retainAll hs).get? k = s.get? k := by
  induction hs generalizing s with
  | nil => rfl
  | cons h rest ih =>
      refine (ih (s.retain h)).trans ?_
      by_cases hk : k = h
      · rw [hk, get?_retain]
      · exact get?_adjust_ne hk

/-- Unless it is dropped, a value stays as it is when references are given back. -/
theorem get?_of_releaseAll {hs : List Handle} (hk : (s.releaseAll hs).get? k = some a) :
    s.get? k = some a := by
  induction hs generalizing s with
  | nil => exact hk
  | cons h rest ih =>
      have hr : (s.release h).get? k = some a := ih hk
      by_cases hh : k = h
      · subst hh
        rw [get?, release, cell?_adjust_self] at hr
        obtain ⟨d, hd, hv⟩ := Option.map_eq_some_iff.mp hr
        obtain ⟨c, hc, hcd⟩ := Option.bind_eq_some_iff.mp hd
        unfold Counted.release? at hcd
        split at hcd
        · cases hcd
          rw [get?, hc]
          exact congrArg some hv
        · cases hcd
      · rwa [release, get?_adjust_ne hh] at hr

theorem index_lt_of_get? (hk : s.get? k = some a) : k.index < s.fresh.index := by
  obtain ⟨c, hc, -⟩ := Option.map_eq_some_iff.mp hk
  refine Nat.lt_of_not_le fun hle => ?_
  have hn : s.cells[k.index]? = none := Array.getElem?_eq_none hle
  rw [cell?, hn] at hc
  cases hc

/-- What is gone in `s` is gone in `t`, as no handle is given twice. -/
structure Follows (s t : Store α) : Prop where
  fresh : s.fresh.index ≤ t.fresh.index
  gone : ∀ {h : Handle}, h.index < s.fresh.index → s.get? h = none → t.get? h = none

namespace Follows

theorem refl (s : Store α) : Follows s s := ⟨Nat.le_refl _, fun _ hn => hn⟩

theorem trans (h : Follows s t) (h' : Follows t u) : Follows s u :=
  ⟨Nat.le_trans h.fresh h'.fresh,
    fun hl hn => h'.gone (Nat.lt_of_lt_of_le hl h.fresh) (h.gone hl hn)⟩

theorem adjust (s : Store α) (h : Handle) (f : Counted α → Option (Counted α)) :
    Follows s (s.adjust h f) := by
  refine ⟨Nat.le_of_eq (congrArg Handle.index s.fresh_adjust.symm), fun {k} _ hn => ?_⟩
  by_cases hk : k = h
  · subst hk
    rw [get?, Option.map_eq_none_iff] at hn
    rw [get?, cell?_adjust_self, hn]
    rfl
  · rwa [get?_adjust_ne hk]

theorem insert (s : Store α) (value : α) : Follows s (s.insert value).2 := by
  refine ⟨by simp [Store.insert, Store.fresh], fun {k} hl hn => ?_⟩
  have hk : k ≠ s.fresh := by
    rintro rfl
    exact Nat.lt_irrefl _ hl
  rwa [get?, cell?_insert, if_neg hk]

theorem releaseAll (s : Store α) (hs : List Handle) : Follows s (s.releaseAll hs) := by
  induction hs generalizing s with
  | nil => exact .refl s
  | cons h rest ih => exact (adjust s h _).trans (ih (s.release h))

/-- What is there in the end was there all the time. -/
theorem isSome (hf : Follows s t) (hl : k.index < s.fresh.index) (ht : (t.get? k).isSome) :
    (s.get? k).isSome := by
  cases hs : s.get? k with
  | some a => rfl
  | none =>
      rw [hf.gone hl hs] at ht
      cases ht

end Follows

end Store

namespace ByteCall

variable {T : Carriers}

theorem readBytes_snd (b : Backend T) (context : T.Context) (handle : Handle) (count : Nat)
    (m : Machine T) : (DeviceBuffer.readBytes b context handle count m).2 = m := by
  show (Action.bind (DeviceBuffer.allocation handle) _ m).2 = m
  unfold Action.bind DeviceBuffer.allocation
  cases m.buffers.get? handle with
  | none => rfl
  | some a => rfl

/-- A call changes one cell, or none. -/
theorem run_buffers (b : Backend T) (context : T.Context) (handle : Handle) (c : ByteCall)
    (m : Machine T) :
    (c.run b context handle m).2.buffers = m.buffers ∨
      ∃ f, (c.run b context handle m).2.buffers = m.buffers.adjust handle f := by
  cases c with
  | read count => exact .inl (congrArg Machine.buffers (readBytes_snd b context handle count m))
  | clone => exact .inr ⟨_, rfl⟩
  | write data =>
      cases ha : m.buffers.get? handle with
      | none =>
          refine .inl ?_
          show (Action.bind (DeviceBuffer.allocation handle) _ m).2.buffers = _
          simp only [Action.bind, DeviceBuffer.allocation, ha]
      | some a =>
          cases hw : b.write context a data with
          | ok a' =>
              simp only [run, writeBytes_ok ha hw]
              exact .inr ⟨_, rfl⟩
          | fault e =>
              refine .inl ?_
              simp only [run, writeBytes_fault ha hw]
          | unwound p =>
              refine .inl ?_
              simp only [run, writeBytes_unwound ha hw]

end ByteCall

namespace Cpu

open Touch (OnArray AllOnArray)

theorem Lends.follows {held : List Handle} {locks : List LockRequest} {s t : Store Allocation}
    (h : Lends held locks s t) : Store.Follows s t := by
  refine ⟨Nat.le_of_eq (congrArg Handle.index h.fresh.symm), fun {k} _ hn => ?_⟩
  have hk := h.cell k
  rw [Store.get?, Option.map_eq_none_iff] at hn
  rw [hn] at hk
  rw [Store.get?]
  generalize t.cell? k = d? at hk
  cases hk
  rfl

/-! ## Calls -/

namespace Call

variable {c : Call} {m : Machine carriers} {h : Handle} {bytes : List UInt8} {e : Executable}
  {arguments : List BoundArgument}

/-- What a call hands to the device, if it gets that far. -/
def handed? (c : Call) (m : Machine carriers) : Option (Executable × List BoundArgument) :=
  match c.kernel.target, (c.kernel.resolve backend c.scheduler.queue.context m).1,
    bindArguments c.arguments with
  | .device, .ok e, .ok arguments => some (e, arguments)
  | _, _, _ => none

/-- What the buffer `h` notices of a call. -/
def touches (c : Call) (h : Handle) (m : Machine carriers) : List Touch :=
  match c.handed? m with
  | some (e, arguments) =>
    launchTouches h e (c.range.arranged c.scheduler.order) arguments (c.accepted m)
  | none => []

theorem resolve_snd (c : Call) (m : Machine carriers) :
    (c.kernel.resolve backend c.scheduler.queue.context m).2 = m :=
  Kernel.resolve_keeps (f := id) resolve_keeps c.kernel c.scheduler.queue.context m

theorem buffers_of_handed (hc : c.handed? m = some (e, arguments)) :
    (c.run m).2.buffers =
      (execute Handle.index e (c.range.arranged c.scheduler.order) arguments
        (c.accepted m)).2.buffers.releaseAll (heldBy c.arguments) := by
  unfold handed? at hc
  split at hc
  · next hk hr ha =>
      cases hc
      exact run_buffers hk (Prod.ext hr (c.resolve_snd m)) ha
  · cases hc

theorem buffers_of_not_handed (hc : c.handed? m = none) : (c.run m).2.buffers = m.buffers := by
  have hm := c.resolve_snd m
  cases hk : c.kernel.target with
  | host =>
      rw [run, Scheduler.schedule_host _ _ _ _ _ hk]
      rfl
  | device =>
      rw [run, Scheduler.schedule_device _ _ _ _ _ hk, Scheduler.counted_buffers,
        Scheduler.launch_eq]
      simp only [handed?, hk] at hc
      generalize c.kernel.resolve backend c.scheduler.queue.context m = resolved at hm hc
      obtain ⟨r, m₁⟩ := resolved
      cases hm
      cases r with
      | fault f => rfl
      | unwound p => rfl
      | ok e =>
          cases ha : bindArguments c.arguments with
          | error p => rfl
          | ok arguments =>
              rw [ha] at hc
              cases hc

end Call

/-! ## Hosts -/

/-- What a host does: it calls the bytes of a buffer, gives a reference to one back, allocates, and
launches kernels. -/
inductive Deed where
  | host (context : Context) (handle : Handle) (call : ByteCall)
  | drop (handle : Handle)
  | allocate (context : Context) (bytes : Nat)
  | launch (call : Call)

namespace Deed

variable {m : Machine carriers} {h : Handle} {bytes : List UInt8}

def run (d : Deed) (m : Machine carriers) : Machine carriers :=
  match d with
  | .host context handle call => (call.run backend context handle m).2
  | .drop handle => m.releaseBuffers [handle]
  | .allocate context bytes => (DeviceBuffer.allocate backend context bytes m).2
  | .launch call => (call.run m).2

/-- What the buffer `h` notices. -/
def touches (h : Handle) (d : Deed) (m : Machine carriers) : List Touch :=
  match d with
  | .host context handle call =>
    if handle = h then [.host call (call.run backend context handle m).1] else []
  | .launch call => call.touches h m
  | .drop _ | .allocate .. => []

def runAll : List Deed → Machine carriers → Machine carriers
  | [], m => m
  | d :: rest, m => runAll rest (d.run m)

def allTouches (h : Handle) : List Deed → Machine carriers → List Touch
  | [], _ => []
  | d :: rest, m => d.touches h m ++ allTouches h rest (d.run m)

theorem allocate_buffers (context : Context) (bytes : Nat) (m : Machine carriers) :
    (DeviceBuffer.allocate backend context bytes m).2.buffers = m.buffers ∨
      ∃ a, (DeviceBuffer.allocate backend context bytes m).2.buffers = (m.buffers.insert a).2 := by
  cases ha : backend.allocate context bytes with
  | ok a =>
      rw [DeviceBuffer.allocate_ok ha]
      exact .inr ⟨a, rfl⟩
  | fault e =>
      rw [DeviceBuffer.allocate_fault ha]
      exact .inl rfl
  | unwound p =>
      rw [DeviceBuffer.allocate_unwound ha]
      exact .inl rfl

theorem run_follows (d : Deed) (m : Machine carriers) :
    Store.Follows m.buffers (d.run m).buffers := by
  cases d with
  | host context handle call =>
      rcases call.run_buffers backend context handle m with he | ⟨f, he⟩
      · rw [run, he]
        exact .refl _
      · rw [run, he]
        exact .adjust _ _ f
  | drop handle => exact .releaseAll _ _
  | allocate context bytes =>
      rcases allocate_buffers context bytes m with he | ⟨a, he⟩
      · rw [run, he]
        exact .refl _
      · rw [run, he]
        exact .insert _ a
  | launch call => exact (call.run_lends m).follows

theorem runAll_follows (deeds : List Deed) (m : Machine carriers) :
    Store.Follows m.buffers (runAll deeds m).buffers := by
  induction deeds generalizing m with
  | nil => exact .refl _
  | cons d rest ih => exact (d.run_follows m).trans (ih (d.run m))

theorem host_onArray (hm : bytesOf m h = some bytes) (context : Context) (call : ByteCall) :
    ∃ after, bytesOf (call.run backend context h m).2 h = some after ∧
      OnArray bytes (.host call (call.run backend context h m).1) after := by
  obtain ⟨a, ha, hb⟩ := Option.map_eq_some_iff.mp hm
  obtain ⟨he, a', ha', hb'⟩ := (backend_likeList context).step ⟨a, ha, hb⟩ call
  refine ⟨_, by rw [bytesOf, ha', Option.map_some, hb'], ?_⟩
  rw [he]
  cases call with
  | read count =>
      simp only [ByteCall.onList]
      split
      · next fits => exact .read fits
      · next past => exact .readPast (Nat.lt_of_not_le past)
  | write data =>
      simp only [ByteCall.onList]
      split
      · next fits => exact .write fits
      · next past => exact .writePast (Nat.lt_of_not_le past)
  | clone => exact .clone

/-- As long as the buffer is not dropped, each deed is one of an array of bytes. -/
theorem run_onArray (d : Deed) (hm : bytesOf m h = some bytes)
    (alive : ((d.run m).buffers.get? h).isSome) :
    ∃ after, bytesOf (d.run m) h = some after ∧ AllOnArray bytes (d.touches h m) after := by
  have same {n : Machine carriers} (hn : n.buffers.get? h = m.buffers.get? h) :
      bytesOf n h = some bytes := by
    rw [← hm, bytesOf, bytesOf, hn]
  cases d with
  | host context handle call =>
      by_cases hh : handle = h
      · subst hh
        obtain ⟨after, ha, touch⟩ := host_onArray hm context call
        exact ⟨after, ha, by rw [touches, if_pos rfl]; exact .one touch⟩
      · refine ⟨bytes, same ?_, by rw [touches, if_neg hh]; exact .nil _⟩
        rcases call.run_buffers backend context handle m with he | ⟨f, he⟩
        · rw [run, he]
        · rw [run, he, Store.get?_adjust_ne (Ne.symm hh)]
  | drop handle =>
      obtain ⟨a, ha⟩ := Option.isSome_iff_exists.mp alive
      exact ⟨bytes, same (ha.trans (Store.get?_of_releaseAll ha).symm), .nil _⟩
  | allocate context n =>
      refine ⟨bytes, same ?_, .nil _⟩
      rcases allocate_buffers context n m with he | ⟨a, he⟩
      · rw [run, he]
      · obtain ⟨b, hb, -⟩ := Option.map_eq_some_iff.mp hm
        have hl := Store.index_lt_of_get? hb
        have hk : h ≠ m.buffers.fresh := by
          rintro rfl
          exact Nat.lt_irrefl _ hl
        rw [run, he, Store.get?, Store.cell?_insert, if_neg hk]
        rfl
  | launch call =>
      cases hc : call.handed? m with
      | none =>
          refine ⟨bytes, same ?_, by rw [touches, Call.touches, hc]; exact .nil _⟩
          rw [run, Call.buffers_of_not_handed hc]
      | some handed =>
          obtain ⟨e, arguments⟩ := handed
          have hacc : bytesOf (call.accepted m) h = some bytes :=
            same (Store.get?_retainAll m.buffers (heldBy call.arguments) h)
          obtain ⟨after, ha, noticed⟩ := execute_onArray hacc e
            (call.range.arranged call.scheduler.order) arguments
          refine ⟨after, ?_, by rw [touches, Call.touches, hc]; exact noticed⟩
          obtain ⟨a, hb⟩ := Option.isSome_iff_exists.mp alive
          have hr : (call.run m).2.buffers.get? h = some a := hb
          rw [Call.buffers_of_handed hc] at hr
          rw [← ha, bytesOf, bytesOf, hb, Store.get?_of_releaseAll hr]

/-- The buffer is an array of bytes from the first deed to the last. -/
theorem runAll_onArray (deeds : List Deed) (hm : bytesOf m h = some bytes)
    (alive : ((runAll deeds m).buffers.get? h).isSome) :
    ∃ after, bytesOf (runAll deeds m) h = some after ∧
      AllOnArray bytes (allTouches h deeds m) after := by
  induction deeds generalizing m bytes with
  | nil => exact ⟨bytes, hm, .nil _⟩
  | cons d rest ih =>
      obtain ⟨a, ha, -⟩ := Option.map_eq_some_iff.mp hm
      -- A buffer that is there in the end was not dropped by the first deed.
      have hl : h.index < (d.run m).buffers.fresh.index :=
        Nat.lt_of_lt_of_le (Store.index_lt_of_get? ha) (d.run_follows m).fresh
      obtain ⟨between, hb, first⟩ :=
        d.run_onArray hm ((runAll_follows rest (d.run m)).isSome hl alive)
      obtain ⟨after, hafter, later⟩ := ih hb alive
      exact ⟨after, hafter, first.append later⟩

end Deed

end Cpu

end Offload
