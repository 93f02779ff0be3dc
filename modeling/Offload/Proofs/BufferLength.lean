import Offload.Proofs.DeviceMemory

/-!
# Lengths of typed buffers in launches

A launch is handed the memory of a typed buffer, and not its length. Its kernel sees all elements for
which there is memory. These are as many as the buffer has if the memory was made for it, but may be
more if memory was taken over.
-/

namespace Offload

/-! ## What kernels see -/

theorem Touch.AllOnArray.length_view {bytes after : List UInt8} {touches : List Touch}
    {t : ElementType} {elements : List t.Bits} (h : AllOnArray bytes touches after)
    (hv : .view t elements ∈ touches) : elements.length = bytes.length / t.size := by
  induction h with
  | nil bytes => cases hv
  | cons first _ ih =>
      rcases List.mem_cons.mp hv with rfl | hv
      · cases first with
        | view whole _ => exact whole
      · rw [ih hv, first.length_eq]

/-- The device gets the arguments of the call in their order. -/
theorem map_bound?_of_bind {arguments : List Argument} {bound : List BoundArgument}
    (h : bindArguments arguments = .ok bound) :
    arguments.map Argument.bound? = bound.map some := by
  induction arguments generalizing bound with
  | nil => cases h; rfl
  | cons a rest ih =>
      rw [bindArguments_cons] at h
      cases ha : a.bound? with
      | none => rw [ha] at h; cases h
      | some x =>
          cases hr : bindArguments rest with
          | error p => rw [ha, hr] at h; cases h
          | ok others =>
              rw [ha, hr] at h
              cases h
              rw [List.map_cons, List.map_cons, ha, ih hr]

theorem getElem?_of_bind {arguments : List Argument} {bound : List BoundArgument} {i : Nat}
    {a : Argument} {x : BoundArgument} (h : bindArguments arguments = .ok bound)
    (ha : arguments[i]? = some a) (hx : a.bound? = some x) : bound[i]? = some x := by
  have hi := congrArg (·[i]?) (map_bound?_of_bind h)
  simp only [List.getElem?_map, ha, Option.map_some, hx] at hi
  obtain ⟨y, hy, he⟩ := Option.map_eq_some_iff.mp hi.symm
  rw [hy, he]

namespace Cpu

open DeviceBuffer (zeros ofElements)

theorem Lends.isSome_get? {held : List Handle} {locks : List LockRequest} {s t : Store Allocation}
    (hl : Lends held locks s t) {h : Handle} (hs : (s.get? h).isSome) : (t.get? h).isSome := by
  have hc := hl.cell h
  rw [Store.get?, Option.isSome_map] at hs ⊢
  generalize s.cell? h = c?, t.cell? h = d? at hc hs
  cases hc with
  | none => cases hs
  | some _ => rfl

variable {m : Machine carriers} {h : Handle} {bytes : List UInt8} {t : ElementType} {a : Access}

theorem countOf_eq (hm : bytesOf m h = some bytes) (t : ElementType) :
    countOf m h t = bytes.length / t.size := by
  rw [countOf, hm, Option.getD_some]

theorem restOf_eq (hm : bytesOf m h = some bytes) (count : Nat) :
    restOf m h count = some (bytes.length, bytes.drop count) := by
  rw [restOf, hm, Option.map_some]

/-- Behind the whole elements of the type that it is bound as, a buffer keeps its bytes. -/
theorem execute_keeps_rest {arguments : List BoundArgument} (ha : .buffer h t a ∈ arguments)
    (hm : bytesOf m h = some bytes) (e : Executable) (shape : LaunchShape) :
    restOf (execute Handle.index e shape arguments m).2 h (t.wholeBytes bytes.length) =
      restOf m h (t.wholeBytes bytes.length) := by
  have hg bound (hb : Invocation.bind Handle.index arguments = .ok bound) :
      Grants bound.slots h (some t) := fun u hu => by
    obtain ⟨access, hx, hw⟩ := Invocation.exclusive_mem_slots hb hu
    rw [Invocation.type_eq_of_writes hb hx hw ha]
  obtain ⟨bytes', hb, hl, hd⟩ := bytesOf_of_outside (execute_outside hg e shape m) hm
  rw [restOf_eq hb, restOf_eq hm, hl, hd]

namespace Call

variable {c : Call} {e : Executable} {arguments : List BoundArgument} {bound : Invocation.Bound}

theorem bind_of_handed (hc : c.handed? m = some (e, arguments)) :
    bindArguments c.arguments = .ok arguments := by
  unfold handed? at hc
  split at hc
  · next ha => cases hc; exact ha
  · cases hc

theorem bytesOf_accepted (c : Call) (m : Machine carriers) (h : Handle) :
    bytesOf (c.accepted m) h = bytesOf m h :=
  congrArg (Option.map _) (Store.get?_retainAll m.buffers (heldBy c.arguments) h)

/-- A buffer is there after a call if it was before. -/
theorem isSome_run (c : Call) (hm : bytesOf m h = some bytes) :
    ((c.run m).2.buffers.get? h).isSome := by
  obtain ⟨a, ha, -⟩ := Option.map_eq_some_iff.mp hm
  exact (c.run_lends m).isSome_get? (Option.isSome_of_eq_some ha)

/-- What a kernel sees of a buffer are all whole elements in its bytes. -/
theorem length_view (hm : bytesOf m h = some bytes) {elements : List t.Bits}
    (hv : .view t elements ∈ c.touches h m) : elements.length = bytes.length / t.size := by
  obtain ⟨after, -, noticed⟩ := Deed.run_onArray (.launch c) hm (c.isSome_run hm)
  exact noticed.length_view hv

theorem run_keeps_rest (ha : .buffer h t a ∈ c.arguments) (hm : bytesOf m h = some bytes) :
    restOf (c.run m).2 h (t.wholeBytes bytes.length) = restOf m h (t.wholeBytes bytes.length) := by
  cases hc : c.handed? m with
  | none => rw [restOf, bytesOf, buffers_of_not_handed hc, ← bytesOf, ← restOf]
  | some handed =>
      obtain ⟨e, arguments⟩ := handed
      obtain ⟨i, hi⟩ := List.mem_iff_getElem?.mp ha
      have hx := List.mem_of_getElem? (getElem?_of_bind (bind_of_handed hc) hi rfl)
      have hk := execute_keeps_rest hx ((c.bytesOf_accepted m h).trans hm) e
        (c.range.arranged c.scheduler.order)
      -- What the kernel has left is there when the references are given back.
      obtain ⟨left, hl⟩ := Option.isSome_iff_exists.mp (c.isSome_run hm)
      have hr := hl
      rw [buffers_of_handed hc] at hr
      rw [restOf, bytesOf, hl, ← Store.get?_of_releaseAll hr, ← bytesOf, ← restOf, hk, restOf,
        bytesOf_accepted, ← restOf]

end Call

/-! ## Kernels with too few elements -/

theorem run_ensureLength_short {slots : List Slot} {cursor i length needed : Nat}
    {f : Unit → Procedure Unit} (hn : length < needed) :
    (Procedure.ensureLength i length needed >>= f).run slots cursor m =
      (.fault (.outOfBounds i length needed), m) := by
  rw [Procedure.ensureLength, if_pos hn]
  rfl

namespace Builtin

/-- An elementwise kernel has the arguments that it asks for, however long they are, to work on `n`
elements of each buffer. Argument `index` is one of its buffers. -/
inductive Spans (shape : LaunchShape) (arguments : List BoundArgument) (n : Nat) :
    String → Implementation → Nat → Prop where
  | fill {out t} (asked : Serves shape arguments (fun _ _ => n) "fill_f32" out t n) :
      Spans shape arguments n "fill_f32" fill 0
  | axpy {y t index} (asked : Serves shape arguments (fun _ _ => n) "axpy_f32" y t n)
      (isBuffer : index = 1 ∨ index = 2) : Spans shape arguments n "axpy_f32" axpy index

/-- Of the arguments that are too short, the first one is reported. -/
theorem run_of_short (launch : Launch) {arguments : List BoundArgument} {name : String}
    {code : Implementation} {index n : Nat}
    (spans : Spans launch.shape arguments n name code index)
    (hx : arguments[index]? = some (.buffer h t a)) (short : countOf m h t < n) :
    ∃ i length, i ≤ index ∧ (i = index → length = countOf m h t) ∧
      (code launch).run (arguments.map slotOf) 0 m = (.fault (.outOfBounds i length n), m) := by
  rw [← length_elementsOf] at short ⊢
  cases spans with
  | fill asked =>
      generalize hk : "fill_f32" = name at asked
      cases asked with
      | axpy => simp at hk
      | nearest => simp at hk
      | fill items target writes constant float _ =>
          cases target.symm.trans hx
          refine ⟨0, _, Nat.le_refl 0, fun _ => rfl, ?_⟩
          rw [fill, run_lift items, run_output target writes, run_scalar constant float,
            run_ensureLength_short short]
  | axpy asked isBuffer =>
      generalize hk : "axpy_f32" = name at asked
      cases asked with
      | fill => simp at hk
      | nearest => simp at hk
      | @axpy _ _ x _ _ _ _ items constant float source _ target writes _ =>
          rw [axpy, run_lift items, run_scalar constant float, run_input source,
            run_output target writes]
          rcases isBuffer with rfl | rfl
          · cases source.symm.trans hx
            exact ⟨1, _, Nat.le_refl 1, fun _ => rfl, run_ensureLength_short short⟩
          · cases target.symm.trans hx
            rcases Nat.lt_or_ge (elementsOf m.buffers x .f32).length n with hs | hs
            · exact ⟨1, _, by decide, fun h => absurd h (by decide), run_ensureLength_short hs⟩
            · rw [run_ensureLength hs]
              exact ⟨2, _, Nat.le_refl 2, fun _ => rfl, run_ensureLength_short short⟩

end Builtin

/-- A call whose arguments are too short fails. -/
theorem Call.run_of_short {c : Call} {name : String} {code : Implementation}
    {options : BuildOptions} {arguments : List BoundArgument} {bound : Invocation.Bound}
    {index n : Nat} (begins : c.Begins m ⟨name, code, options⟩ arguments bound)
    (spans : Builtin.Spans (c.range.arranged c.scheduler.order) arguments n name code index)
    (hx : arguments[index]? = some (.buffer h t a)) (short : countOf m h t < n) :
    ∃ i length, i ≤ index ∧ (i = index → length = countOf m h t) ∧
      (c.run m).1 = .fault (backend.deviceError (.outOfBounds i length n)) := by
  let first := c.firstStage m ⟨name, code, options⟩ bound
  have hc : countOf first.machine h t = countOf m h t :=
    countOf_congr ((bytesOf_acquired _ bound.locks h).trans (c.bytesOf_accepted m h)) t
  rw [← hc] at short ⊢
  obtain ⟨i, length, hi, hl, hr⟩ := Builtin.run_of_short
    ⟨c.range.arranged c.scheduler.order, options.defineValue?, bound.slots.length⟩ spans hx short
  refine ⟨i, length, hi, hl, ?_⟩
  have hb : (runBound ⟨name, code, options⟩ (c.range.arranged c.scheduler.order) bound
      (c.accepted m)).1 = .error (.outOfBounds i length n) := by
    rw [← Invocation.bind_slots begins.locked] at hr
    exact congrArg (fun r : Outcome Fault Unit × Machine carriers =>
      r.1.contain fun p => .panicked p.report) hr
  rw [run_outcome begins.device begins.resolved begins.handed, execute, begins.locked]
  simp only [hb]
  rfl

/-! ## Lengths in launches -/

/-- Launches respect the length of a buffer. A kernel that asks for it as what it is sees its elements
and leaves the bytes behind them alone, and one that has more elements to fill fails. -/
structure Respected (m : Machine carriers) (buffer : DeviceBuffer) : Prop where
  sees : ∀ (c : Call) (elements : List buffer.type.Bits),
    .view buffer.type elements ∈ c.touches buffer.handle m → elements.length = buffer.length
  keeps : ∀ (c : Call) (access : Access), buffer.argument access ∈ c.arguments →
    restOf (c.run m).2 buffer.handle (buffer.length * buffer.type.size) =
      restOf m buffer.handle (buffer.length * buffer.type.size)
  fails : ∀ (c : Call) (name : String) (code : Implementation) (options : BuildOptions)
    (arguments : List BoundArgument) (bound : Invocation.Bound) (index n : Nat) (access : Access),
    c.Begins m ⟨name, code, options⟩ arguments bound →
    Builtin.Spans (c.range.arranged c.scheduler.order) arguments n name code index →
    c.arguments[index]? = some (buffer.argument access) → buffer.length < n →
    ∃ i length, i ≤ index ∧ (i = index → length = buffer.length) ∧
      (c.run m).1 = .fault (backend.deviceError (.outOfBounds i length n))

variable {buffer : DeviceBuffer}

theorem respected_of_count (hm : bytesOf m buffer.handle = some bytes)
    (hc : countOf m buffer.handle buffer.type = buffer.length) : Respected m buffer := by
  have hw : buffer.type.wholeBytes bytes.length = buffer.length * buffer.type.size := by
    rw [← hc, countOf_eq hm, ElementType.wholeBytes]
  refine ⟨fun c elements hv => ?_, fun c access ha => ?_, ?_⟩
  · rw [c.length_view hm hv, ← countOf_eq hm, hc]
  · rw [← hw]
    exact c.run_keeps_rest ha hm
  · intro c name code options arguments bound index n access begins spans hx short
    rw [← hc] at short ⊢
    exact c.run_of_short begins spans (getElem?_of_bind begins.handed hx rfl) short

/-- Looks at a buffer. -/
def look (type : ElementType) : Procedure Unit := do
  let _ ← Procedure.input type

/-- A call whose kernel sees `buffer`. -/
def lookAt (buffer : DeviceBuffer) : Call where
  scheduler := .lone
  kernel := { Scheduler.idleKernel with entry := .loaded ⟨"look", fun _ => look buffer.type, {}⟩ }
  range := Scheduler.fourItems
  arguments := [buffer.argument .read]

theorem look_touches (type : ElementType) (h : Handle) (m : Machine carriers) :
    (look type).touches h [.shared h type] 0 m =
      [.view type (elementsOf m.buffers h type)] := by
  have ha : Slot.answer m.buffers 0 (.shared h type) (.input type) =
      .ok (elementsOf m.buffers h type) := checkType_eq_ok_iff.mpr ⟨rfl, rfl⟩
  show (Procedure.ask (.input type) _).touches h [.shared h type] 0 m = _
  simp only [Procedure.touches, List.getElem?_cons_zero, ha, Slot.viewed, Slot.handle?, if_true]
  rfl

theorem lookAt_touches (m : Machine carriers) (buffer : DeviceBuffer) :
    ∃ elements, (lookAt buffer).touches buffer.handle m = [.view buffer.type elements] := by
  have hh : (lookAt buffer).handed? m = some (⟨"look", fun _ => look buffer.type, {}⟩,
      [.buffer buffer.handle buffer.type .read]) := rfl
  obtain ⟨bound, hb⟩ : ∃ bound, Invocation.bind Handle.index
      [.buffer buffer.handle buffer.type .read] = .ok bound := ⟨_, rfl⟩
  rw [Call.touches, hh]
  simp only [launchTouches, hb, Invocation.bind_slots hb]
  exact ⟨_, look_touches ..⟩

theorem respected_iff (hm : bytesOf m buffer.handle = some bytes) :
    Respected m buffer ↔ countOf m buffer.handle buffer.type = buffer.length := by
  refine ⟨fun respected => ?_, respected_of_count hm⟩
  obtain ⟨elements, ht⟩ := lookAt_touches m buffer
  have hv : .view buffer.type elements ∈ (lookAt buffer).touches buffer.handle m := by
    rw [ht]
    exact List.mem_singleton_self _
  rw [countOf_eq hm, ← (lookAt buffer).length_view hm hv, respected.sees _ _ hv]

/-- Whatever hosts do, a buffer has its memory as long as it is there. -/
theorem exists_bytesOf_runAll (deeds : List Deed) (hm : bytesOf m h = some bytes)
    (alive : ((Deed.runAll deeds m).buffers.get? h).isSome) :
    ∃ later, bytesOf (Deed.runAll deeds m) h = some later ∧
      ∀ t, countOf (Deed.runAll deeds m) h t = countOf m h t := by
  obtain ⟨later, hl, noticed⟩ := Deed.runAll_onArray deeds hm alive
  exact ⟨later, hl, fun t => by rw [countOf_eq hl, countOf_eq hm, noticed.length_eq]⟩

/-- Whatever hosts do to a buffer that was made, launches respect its length if the memory behind it
has room for no more elements, and only then. There is no more room behind a buffer that was made of
zeros or of elements. -/
theorem length_respected_iff (context : Context) (m : Machine carriers) :
    (∀ buffer m', Made context m buffer m' →
      ∀ deeds, ((Deed.runAll deeds m').buffers.get? buffer.handle).isSome →
        (Respected (Deed.runAll deeds m') buffer ↔
          countOf m' buffer.handle buffer.type = buffer.length)) ∧
    (∀ type length buffer m', zeros backend context type length m = (.ok buffer, m') →
      countOf m' buffer.handle buffer.type = buffer.length) ∧
    ∀ type elements buffer m', ofElements backend context type elements m = (.ok buffer, m') →
      countOf m' buffer.handle buffer.type = buffer.length := by
  refine ⟨fun buffer m' made deeds alive => ?_, fun type length buffer m' hz => ?_,
    fun type elements buffer m' he => ?_⟩
  · obtain ⟨bytes, hm, -⟩ := made.fits
    obtain ⟨later, hl, hc⟩ := exists_bytesOf_runAll deeds hm alive
    rw [respected_iff hl, hc]
  · obtain ⟨handle, rfl, -, hb⟩ := zeros_inv hz
    rw [countOf_eq hb, List.length_replicate, Nat.mul_div_cancel _ type.size_pos]
  · obtain ⟨handle, rfl, -, hb⟩ := ofElements_inv he
    rw [countOf_eq hb, ElementType.length_encodeAll, Nat.mul_div_cancel _ type.size_pos]

/-- One element over memory for two. -/
def shortView : DeviceBuffer := ⟨⟨0⟩, .f32, 1⟩

theorem length_respected_iff_short :
    let two := (zeros backend home .f32 2 { state := {} }).2
    Respected two ⟨⟨0⟩, .f32, 2⟩ ∧
      ¬ Respected (DeviceBuffer.ofHandle backend ⟨0⟩ .f32 1 two).2 shortView := by
  intro two
  have hz : zeros backend home .f32 2 { state := {} } = (.ok ⟨⟨0⟩, .f32, 2⟩, two) := rfl
  have ho : DeviceBuffer.ofHandle backend ⟨0⟩ .f32 1 two = (.ok shortView, _) := rfl
  have whole := (length_respected_iff home _).1 _ two (.zeros hz) [] rfl
  have short := (length_respected_iff home two).1 shortView _ (.ofHandle ho) [] rfl
  exact ⟨whole.mpr (by decide +kernel), (not_congr short).mpr (by decide +kernel)⟩

/-- Fills two elements. -/
def fillTwo : Call where
  scheduler := .lone
  kernel := { Scheduler.idleKernel with entry := .loaded ⟨"fill_f32", Builtin.fill, {}⟩ }
  range := .flat ⟨[2], by decide, by decide⟩
  arguments := [shortView.argument .write, .constant ⟨.f32, 0x40000000⟩]

/-- Two elements are filled through a buffer that has one. -/
theorem fill_past_length :
    let m := (DeviceBuffer.allocate backend home 8 { state := {} }).2
    let made := DeviceBuffer.ofHandle backend ⟨0⟩ .f32 1 m
    made.1 = .ok shortView ∧ bytesOf made.2 ⟨0⟩ = some [0, 0, 0, 0, 0, 0, 0, 0] ∧
      (fillTwo.run made.2).1 = .ok () ∧
      bytesOf (fillTwo.run made.2).2 ⟨0⟩ = some [0, 0, 0, 0x40, 0, 0, 0, 0x40] :=
  ⟨rfl, by decide +kernel, by decide +kernel, by decide +kernel⟩

end Cpu

end Offload
