import Offload.Proofs.Builtins

/-!
# Labels of the nearest centroids

A label is the index of the first centroid at the least distance, in an order of distances in which
a NaN has no place. Blocks of rows can be labelled in any order: what they leave is what one pass
over all rows makes, and so is what a launch leaves.
-/

namespace Offload.Cpu

namespace Centroid

variable {F : Type}

/-! ## Nearest -/

/-- Distances are compared as floats are: a NaN is neither less nor greater than anything, and all
others are in a strict order with ties: of two that are apart, any third is apart from one. -/
structure Metric.Ordered (m : Metric F) (IsNaN : F → Prop) : Prop where
  left : ∀ x y, IsNaN x → m.less x y = false
  right : ∀ x y, IsNaN y → m.less x y = false
  irrefl : ∀ x, ¬ IsNaN x → m.less x x = false
  trans : ∀ x y z, ¬ IsNaN x → ¬ IsNaN y → ¬ IsNaN z →
    m.less x y = true → m.less y z = true → m.less x z = true
  split : ∀ x y z, ¬ IsNaN x → ¬ IsNaN y → ¬ IsNaN z →
    m.less x z = true → m.less x y = true ∨ m.less y z = true

namespace Metric.Ordered

variable {m : Metric F} {IsNaN : F → Prop} {x y z : F}

theorem not_nan (h : m.Ordered IsNaN) (hl : m.less x y = true) : ¬ IsNaN x ∧ ¬ IsNaN y := by
  constructor <;> intro hn
  · rw [h.left x y hn] at hl; cases hl
  · rw [h.right x y hn] at hl; cases hl

theorem less_self (h : m.Ordered IsNaN) (x : F) : m.less x x = false := by
  by_cases hn : IsNaN x
  · exact h.left x x hn
  · exact h.irrefl x hn

theorem less_trans (h : m.Ordered IsNaN) (hxy : m.less x y = true) (hyz : m.less y z = true) :
    m.less x z = true :=
  h.trans x y z (h.not_nan hxy).1 (h.not_nan hxy).2 (h.not_nan hyz).2 hxy hyz

/-- What is not less than `z` is not less than anything that is less than `z`. -/
theorem not_less_of_less (h : m.Ordered IsNaN) (hxz : m.less x z = false)
    (hyz : m.less y z = true) : m.less x y = false := by
  refine Bool.eq_false_iff.mpr fun hxy => ?_
  rw [h.less_trans hxy hyz] at hxz
  cases hxz

/-- What is not less than `z` is greater than all that is less than `z`. -/
theorem less_of_not_less (h : m.Ordered IsNaN) (hn : ¬ IsNaN y) (hyz : m.less y z = false)
    (hxz : m.less x z = true) : m.less x y = true := by
  have hs := h.split x y z (h.not_nan hxz).1 hn (h.not_nan hxz).2 hxz
  rw [hyz] at hs
  exact hs.resolve_right Bool.false_ne_true

end Metric.Ordered

variable (m : Metric F) (d : Nat → F) (count : Nat)

/-- Centroid `c` is at a least distance among those below infinity. -/
def Metric.Least (c : Nat) : Prop :=
  c < count ∧ m.less (d c) m.infinity = true ∧
    ∀ k < count, m.less (d k) m.infinity = true → m.less (d k) (d c) = false

/-- The label for centroids at distances `d`: the first at a least distance, or minus one if no
distance is below infinity. -/
inductive Metric.Labels : BitVec 32 → Prop where
  | nearest (c : Nat) (least : m.Least d count c) (first : ∀ k < c, ¬ m.Least d count k) :
      Labels (BitVec.ofNat 32 c)
  | none (far : ∀ c < count, m.less (d c) m.infinity = false) : Labels (-1)

/-- The best of the first `count` centroids, as the search keeps it. -/
inductive Metric.Leads : F × Option Nat → Prop where
  | none (far : ∀ k < count, m.less (d k) m.infinity = false) : Leads (m.infinity, none)
  | some (c : Nat) (lt : c < count) (near : m.less (d c) m.infinity = true)
      (least : ∀ k < count, m.less (d k) (d c) = false)
      (first : ∀ k < c, m.less (d k) m.infinity = true → m.less (d c) (d k) = true) :
      Leads (d c, some c)

section Search

variable {m d count} {IsNaN : F → Prop} {best : F × Option Nat}

/-- One more centroid. -/
theorem Metric.Leads.step (h : m.Ordered IsNaN) (hb : m.Leads d count best) :
    m.Leads d (count + 1)
      (if m.less (d count) best.1 then (d count, Option.some count) else best) := by
  cases hb with
  | none far =>
      by_cases hl : m.less (d count) m.infinity = true
      · rw [if_pos hl]
        have least : ∀ k < count, m.less (d k) (d count) = false := fun k hk =>
          h.not_less_of_less (far k hk) hl
        refine .some count (Nat.lt_succ_self _) hl
          (Nat.forall_lt_succ_right.mpr ⟨least, h.less_self _⟩) fun k hk hn => ?_
        rw [far k hk] at hn
        cases hn
      · rw [if_neg hl]
        exact .none (Nat.forall_lt_succ_right.mpr ⟨far, Bool.eq_false_iff.mpr hl⟩)
  | some c lt near least first =>
      by_cases hl : m.less (d count) (d c) = true
      · rw [if_pos hl]
        have least' : ∀ k < count, m.less (d k) (d count) = false := fun k hk =>
          h.not_less_of_less (least k hk) hl
        refine .some count (Nat.lt_succ_self _) (h.less_trans hl near)
          (Nat.forall_lt_succ_right.mpr ⟨least', h.less_self _⟩) fun k hk hn => ?_
        exact h.less_of_not_less (h.not_nan hn).1 (least k hk) hl
      · rw [if_neg hl]
        exact .some c (Nat.lt_succ_of_lt lt) near
          (Nat.forall_lt_succ_right.mpr ⟨least, Bool.eq_false_iff.mpr hl⟩) first

theorem Metric.Leads.labels (hb : m.Leads d count best) :
    m.Labels d count (label best.2) := by
  cases hb with
  | none far => exact .none far
  | some c lt near least first =>
      refine .nearest c ⟨lt, near, fun k hk _ => least k hk⟩ fun k hk hl => ?_
      have hkc := hl.2.2 c lt near
      rw [first k hk hl.2.1] at hkc
      cases hkc

end Search

/-- The search is led by the best of the centroids that it has seen. -/
theorem nearest?_labels {IsNaN : F → Prop} (h : m.Ordered IsNaN) (point : List F)
    (row : Nat → List F) : m.Labels (fun c => m.distance point (row c)) count
      (label (nearest? m point ((List.range count).map fun c => (c, row c)))) := by
  refine Metric.Leads.labels ?_
  rw [List.foldl_map]
  induction count with
  | zero => exact .none fun k hk => absurd hk (Nat.not_lt_zero k)
  | succ count ih =>
      rw [List.range_succ, List.foldl_append]
      exact ih.step h

/-! ## Blocks in any order -/

/-- A list with the entries from `first` on made anew. -/
def place {α : Type} (items : List α) (first : Nat) (made : List α) : List α :=
  items.take first ++ made ++ items.drop (first + made.length)

section Place

variable {α : Type} {items made : List α} {first : Nat}

theorem length_place (h : first + made.length ≤ items.length) :
    (place items first made).length = items.length := by
  simp only [place, List.length_append, List.length_take, List.length_drop]
  omega

theorem getElem?_place (h : first + made.length ≤ items.length) (i : Nat) :
    (place items first made)[i]? =
      if first ≤ i ∧ i < first + made.length then made[i - first]? else items[i]? := by
  have ht : (items.take first).length = first := by
    rw [List.length_take]
    omega
  rw [place, List.append_assoc]
  by_cases hi : i < first
  · rw [if_neg (by omega), List.getElem?_append_left (by omega), List.getElem?_take_of_lt hi]
  · rw [List.getElem?_append_right (by omega), ht]
    by_cases hm : i < first + made.length
    · rw [if_pos (by omega), List.getElem?_append_left (by omega)]
    · rw [if_neg (by omega), List.getElem?_append_right (by omega), List.getElem?_drop]
      congr 1
      omega

end Place

/-- The labels after one block of them is assigned in place. -/
def assignInPlace (m : Metric F) (data centroids : Table F) (clusters rows size : Nat)
    (labels : List (BitVec 32)) (index : Nat) : Except Panic (List (BitVec 32)) :=
  let made := assignBlock m data centroids clusters rows size index
  match made.panic? with
  | some p => .error p
  | none => .ok (place labels (index * size) made.items)

/-- The labels after blocks of them are assigned in the order given. -/
def assignInOrder (m : Metric F) (data centroids : Table F) (clusters rows size : Nat)
    (order : List Nat) (labels : List (BitVec 32)) : Except Panic (List (BitVec 32)) :=
  order.foldlM (assignInPlace m data centroids clusters rows size) labels

section Blocks

variable {data centroids : Table F} {clusters rows size : Nat} {labels : List (BitVec 32)}

/-- A row is in one block, the one that its number says. -/
theorem in_block_iff (hs : 0 < size) {index i : Nat} :
    (index * size ≤ i ∧ i < index * size + min size (rows - index * size)) ↔
      i < rows ∧ i / size = index := by
  constructor
  · rintro ⟨hl, hr⟩
    have hd : i / size = index := Nat.div_eq_of_lt_le hl (by rw [Nat.add_mul]; omega)
    exact ⟨by omega, hd⟩
  · rintro ⟨hr, rfl⟩
    have hd := Nat.div_add_mod' i size
    have hm := Nat.mod_lt i hs
    omega

/-- A block changes the labels of its rows. -/
theorem assignInPlace_eq (h : Ready data centroids clusters rows) (hs : 0 < size)
    (hl : rows ≤ labels.length) {index : Nat} (hi : index * size < rows) :
    ∃ after, assignInPlace m data centroids clusters rows size labels index = .ok after ∧
      after.length = labels.length ∧ ∀ i, after[i]? =
        if i < rows ∧ i / size = index then some (labelAt m data centroids clusters i)
        else labels[i]? := by
  rw [assignInPlace, assignBlock_eq m h hi]
  refine ⟨_, rfl, length_place ?_, fun i => ?_⟩
  · rw [List.length_map, List.length_range']
    omega
  · rw [getElem?_place (by rw [List.length_map, List.length_range']; omega), List.length_map,
      List.length_range']
    simp only [in_block_iff hs]
    split
    · next hb =>
        have hb' : index * size ≤ i ∧ i < index * size + min size (rows - index * size) :=
          (in_block_iff hs).mpr hb
        rw [List.getElem?_map, List.getElem?_range' (by omega)]
        simp only [Option.map_some, Nat.one_mul, Nat.add_sub_cancel' hb'.1]
    · rfl

/-- After some blocks, in whatever order, the rows of these have their labels. -/
theorem assignInOrder_eq (h : Ready data centroids clusters rows) (hs : 0 < size)
    (hl : rows ≤ labels.length) {order : List Nat} (ho : ∀ index ∈ order, index * size < rows) :
    ∃ after, assignInOrder m data centroids clusters rows size order labels = .ok after ∧
      after.length = labels.length ∧ ∀ i, after[i]? =
        if i < rows ∧ i / size ∈ order then some (labelAt m data centroids clusters i)
        else labels[i]? := by
  induction order generalizing labels with
  | nil => exact ⟨labels, rfl, rfl, fun i => by simp⟩
  | cons index rest ih =>
      obtain ⟨hi, hr⟩ := List.forall_mem_cons.mp ho
      obtain ⟨next, hn, length, now⟩ := assignInPlace_eq m h hs hl hi
      obtain ⟨after, ha, length', later⟩ := ih (length ▸ hl) hr
      refine ⟨after, ?_, length'.trans length, fun i => ?_⟩
      · rw [assignInOrder, List.foldlM_cons, hn]
        exact ha
      · rw [later, now]
        by_cases hrow : i < rows <;> by_cases hn : i / size = index <;> simp [hrow, hn]

/-- Once every block has had its turn, every row has its label. -/
theorem assignInOrder_perm (h : Ready data centroids clusters rows) (hs : 0 < size)
    (hl : rows ≤ labels.length) {order : List Nat}
    (hp : order.Perm (List.range ((rows + size - 1) / size))) :
    assignInOrder m data centroids clusters rows size order labels =
      .ok ((List.range rows).map (labelAt m data centroids clusters) ++ labels.drop rows) := by
  have started : ∀ index ∈ order, index * size < rows := fun index hi =>
    start_lt_rows (List.mem_range.mp (hp.mem_iff.mp hi))
  obtain ⟨after, ha, -, now⟩ := assignInOrder_eq m h hs hl started
  have length : ((List.range rows).map (labelAt m data centroids clusters)).length = rows := by
    rw [List.length_map, List.length_range]
  rw [ha]
  congr 1
  refine List.ext_getElem? fun i => ?_
  rw [now]
  by_cases hi : i < rows
  · have hb : i / size ∈ order := by
      have := Nat.lt_of_lt_of_le hi (rows_le_blocks rows hs)
      rw [hp.mem_iff, List.mem_range]
      exact Nat.div_lt_of_lt_mul (by rwa [Nat.mul_comm])
    rw [if_pos ⟨hi, hb⟩, List.getElem?_append_left (by rwa [length]), List.getElem?_map,
      List.getElem?_range hi, Option.map_some]
  · have hr := Nat.le_of_not_lt hi
    rw [if_neg fun hb => hi hb.1, List.getElem?_append_right (by rwa [length]), length,
      List.getElem?_drop, Nat.add_sub_cancel' hr]

end Blocks

/-- One pass over the rows makes `plain`, which are labels of nearest centroids. Blocks of any size
leave them too, whatever comes first. -/
structure OnePass (data centroids : Table F) (clusters rows : Nat) (plain : List (BitVec 32)) :
    Prop where
  pass : assignRows m data centroids clusters 0 rows = ⟨plain, none⟩
  length : plain.length = rows
  nearest : ∀ row value, plain[row]? = some value →
    m.Labels (fun c => m.distance (data.rowAt row) (centroids.rowAt c)) clusters value
  blocks : ∀ size, 0 < size → ∀ order, order.Perm (List.range ((rows + size - 1) / size)) →
    ∀ labels, rows ≤ labels.length →
      assignInOrder m data centroids clusters rows size order labels =
        .ok (plain ++ labels.drop rows)

theorem onePass {data centroids : Table F} {clusters rows : Nat} {IsNaN : F → Prop}
    (ho : m.Ordered IsNaN) (h : Ready data centroids clusters rows) :
    OnePass m data centroids clusters rows
      ((List.range rows).map (labelAt m data centroids clusters)) where
  pass := assignRows_all m h
  length := by rw [List.length_map, List.length_range]
  nearest := by
    intro row value hv
    rw [List.getElem?_map, Option.map_eq_some_iff] at hv
    obtain ⟨i, hi, rfl⟩ := hv
    obtain ⟨hr, rfl⟩ := List.getElem?_eq_some_iff.mp hi
    rw [List.getElem_range]
    exact nearest?_labels m clusters ho _ _
  blocks := fun _ hs _ hp _ hl => assignInOrder_perm m h hs hl hp

end Centroid

/-! ## Launches -/

section Elements

variable {m n : Machine carriers} {h : Handle} {t : ElementType}

theorem elementsOf_eq (m : Machine carriers) (h : Handle) (t : ElementType) :
    elementsOf m.buffers h t = t.elements ((bytesOf m h).getD []) := by
  unfold elementsOf bytesOf
  cases m.buffers.get? h with
  | none => exact (@ElementType.elements_eq_nil t [] t.size_pos).symm
  | some a => rfl

theorem elementsOf_congr (hb : bytesOf m h = bytesOf n h) (t : ElementType) :
    elementsOf m.buffers h t = elementsOf n.buffers h t := by
  rw [elementsOf_eq, elementsOf_eq, hb]

theorem elementsOf_store {values : List t.Bits} (hv : values.length ≤ countOf m h t) :
    elementsOf (Slot.store m.buffers t values (.exclusive h t)) h t =
      values ++ (elementsOf m.buffers h t).drop values.length := by
  simp only [Slot.store, if_true, elementsOf, Store.get?, Store.update, Store.cell?_adjust_self]
  cases hc : m.buffers.cell? h with
  | none =>
      have hn : values.length ≤ 0 := by simpa [countOf, bytesOf, Store.get?, hc] using hv
      simp [List.eq_nil_of_length_eq_zero (Nat.le_zero.mp hn)]
  | some c =>
      refine Memory.elements_store _ ?_
      simpa [countOf, bytesOf, Store.get?, hc] using hv

/-- The labels in a buffer of them. -/
def labelsOf (m : Machine carriers) (h : Handle) : List (BitVec 32) :=
  elementsOf m.buffers h .i32

theorem labelsOf_congr (hb : bytesOf m h = bytesOf n h) : labelsOf m h = labelsOf n h :=
  elementsOf_congr hb .i32

theorem labelsOf_store {values : List (BitVec 32)} (hv : values.length ≤ countOf m h .i32) :
    labelsOf { m with buffers := Slot.store m.buffers .i32 values (.exclusive h .i32) } h =
      values ++ (labelsOf m h).drop values.length :=
  elementsOf_store hv

end Elements

namespace Builtin

open Centroid

/-- Bits are compared as the numbers are that they stand for. -/
theorem squared_ordered : squared.Ordered fun x => Single.isNaN x = true where
  left := fun x y hx => by simp [squared, Single.less, hx]
  right := fun x y hy => by simp [squared, Single.less, hy]
  irrefl := fun x _ => by simp [squared, Single.less]
  trans := by
    intro x y z _ _ _ hxy hyz
    simp only [squared, Single.less, Bool.and_eq_true, decide_eq_true_eq] at hxy hyz ⊢
    exact ⟨⟨hxy.1.1, hyz.1.2⟩, Int.lt_trans hxy.2 hyz.2⟩
  split := by
    intro x y z hx hy hz hxz
    simp only [squared, Single.less, hx, hy, hz, Bool.not_false, Bool.and_self, Bool.true_and,
      decide_eq_true_eq] at hxz ⊢
    omega

theorem Reads.congr {arguments : List BoundArgument} {m n : Machine carriers}
    {data centroids : Table Single.Bits} {clusters : Nat}
    (hb : ∀ h, bytesOf m h = bytesOf n h) (hr : Reads arguments m data centroids clusters) :
    Reads arguments n data centroids clusters := by
  obtain ⟨⟨p, a, hp, hd⟩, ⟨q, b, hq, hc⟩, features, groups⟩ := hr
  exact ⟨⟨p, a, hp, hd.trans (elementsOf_congr (hb p) _)⟩,
    ⟨q, b, hq, hc.trans (elementsOf_congr (hb q) _)⟩, features, groups⟩

/-- The arguments say which tables are read. -/
theorem Reads.unique {arguments : List BoundArgument} {m : Machine carriers}
    {data data' centroids centroids' : Table Single.Bits} {clusters clusters' : Nat}
    (h : Reads arguments m data centroids clusters)
    (h' : Reads arguments m data' centroids' clusters') :
    data = data' ∧ centroids = centroids' ∧ clusters = clusters' := by
  obtain ⟨⟨_, _, hp, points⟩, ⟨_, _, hc, centers⟩, ⟨_, _, hs, hd, dim, dim'⟩,
    _, _, hn, hb, rfl⟩ := h
  obtain ⟨⟨_, _, hp', points'⟩, ⟨_, _, hc', centers'⟩, ⟨_, _, hs', hd', edim, edim'⟩,
    _, _, hn', hb', rfl⟩ := h'
  cases hp.symm.trans hp'
  cases hc.symm.trans hc'
  cases hs.symm.trans hs'
  cases hn.symm.trans hn'
  cases hd.symm.trans hd'
  cases hb.symm.trans hb'
  exact ⟨Table.ext (Array.toList_inj.mp (points.trans points'.symm)) (dim.trans edim.symm),
    Table.ext (Array.toList_inj.mp (centers.trans centers'.symm)) (dim'.trans edim'.symm), rfl⟩

theorem Serves.room_le {shape : LaunchShape} {arguments : List BoundArgument}
    {count : Handle → ElementType → Nat} {name : String} {out : Handle} {t : ElementType} {n : Nat}
    (h : Serves shape arguments count name out t n) : n ≤ count out t := by
  cases h with
  | fill => assumption
  | axpy => assumption
  | nearest => assumption

variable {address : Handle → Nat} {shape : LaunchShape} {arguments : List BoundArgument}
  {m : Machine carriers} {bound : Invocation.Bound} {labels : Handle} {rows : Nat}

/-- A labelling that passes its checks leaves the labels of one pass over the rows it reads. -/
theorem execute_nearestCentroid (options : BuildOptions)
    (hb : Invocation.bind address arguments = .ok bound)
    (hs : Serves shape arguments (countOf m) "nearest_centroid_f32" labels .i32 rows) :
    let launched := execute address ⟨"nearest_centroid_f32", nearestCentroid, options⟩ shape
      arguments m
    ∃ data centroids clusters, Reads arguments m data centroids clusters ∧
      Ready data centroids clusters rows ∧ launched.1 = .ok () ∧
      labelsOf launched.2 labels =
        (assignRows squared data centroids clusters 0 rows).items ++
          (labelsOf m labels).drop rows := by
  intro launched
  let e : Executable := ⟨"nearest_centroid_f32", nearestCentroid, options⟩
  let first := Stage.first e shape bound m
  have hl : launched = runBound e shape bound m := by
    simp only [launched, execute, hb]
    rfl
  have hm (h : Handle) : bytesOf first.machine h = bytesOf m h :=
    bytesOf_acquired m bound.locks h
  rw [← countOf_acquired m bound.locks] at hs
  obtain ⟨data, centroids, clusters, reads, ready, hr⟩ :=
    run_nearestCentroid ⟨shape, options.defineValue?, bound.slots.length⟩ arguments first.machine hs
  rw [← Invocation.bind_slots hb] at hr
  let stored : Machine carriers := { first.machine with
    buffers := Slot.store first.machine.buffers .i32
      (assignRows squared data centroids clusters 0 rows).items (.exclusive labels .i32) }
  have settled : Settles first.machine (· = stored) (first.run bound.slots) := by
    rw [show first.run bound.slots = _ from hr]
    exact rfl
  have done : (runBound e shape bound m).1 = .ok () := runBound_of_ok (congrArg Prod.fst hr)
  obtain ⟨after, rfl, left⟩ := (runBound_of_settles settled).2 done
  have length : (assignRows squared data centroids clusters 0 rows).items.length = rows := by
    rw [assignRows_all squared ready, List.length_map, List.length_range]
  have room : (assignRows squared data centroids clusters 0 rows).items.length ≤
      countOf first.machine labels .i32 := by
    rw [length]
    exact hs.room_le
  refine ⟨data, centroids, clusters, reads.congr hm, ready, hl ▸ done, ?_⟩
  rw [hl, labelsOf_congr (left labels), labelsOf_store room, length, labelsOf_congr (hm labels)]

/-- Over distances of any kind, blocks of any size and in any order leave the labels of one pass,
which are those of nearest centroids, and no product overflows and no index is out of range on the
way. A launch that passes its checks leaves these labels too, and those after them as they were. -/
theorem labels_nearest :
    (∀ {F : Type} (m : Metric F) (IsNaN : F → Prop) (data centroids : Table F)
      (clusters rows : Nat), m.Ordered IsNaN → Ready data centroids clusters rows →
      ∃ plain, OnePass m data centroids clusters rows plain) ∧
    ∀ (address : Handle → Nat) (options : BuildOptions) (shape : LaunchShape)
      (arguments : List BoundArgument) (m : Machine carriers) (bound : Invocation.Bound)
      (labels : Handle) (rows : Nat), Invocation.bind address arguments = .ok bound →
      Serves shape arguments (countOf m) "nearest_centroid_f32" labels .i32 rows →
      let launched := execute address ⟨"nearest_centroid_f32", nearestCentroid, options⟩ shape
        arguments m
      ∃ data centroids clusters plain, Reads arguments m data centroids clusters ∧
        OnePass squared data centroids clusters rows plain ∧ launched.1 = .ok () ∧
        labelsOf launched.2 labels = plain ++ (labelsOf m labels).drop rows := by
  refine ⟨fun m _ _ _ _ _ ordered ready => ⟨_, onePass m ordered ready⟩, ?_⟩
  intro address options shape arguments m bound labels rows hb hs launched
  obtain ⟨data, centroids, clusters, reads, ready, done, left⟩ :=
    execute_nearestCentroid options hb hs
  have plain := onePass squared squared_ordered ready
  rw [plain.pass] at left
  exact ⟨data, centroids, clusters, _, reads, plain, done, left⟩

/-- Distances on a line, where a point can be off the line and whatever is a thousand away is too
far. -/
def onLine : Metric (Option Nat) where
  distance
    | [some x], [some y] => some (x - y + (y - x))
    | _, _ => none
  less
    | some x, some y => x < y
    | _, _ => false
  infinity := some 1000

theorem onLine_ordered : onLine.Ordered (· = none) where
  left := by
    rintro _ _ rfl
    rfl
  right := by rintro (_ | x) _ rfl <;> rfl
  irrefl := by rintro (_ | x) hx <;> simp [onLine]
  trans := by
    intro x y z hx hy hz
    obtain ⟨a, rfl⟩ := Option.ne_none_iff_exists'.mp hx
    obtain ⟨b, rfl⟩ := Option.ne_none_iff_exists'.mp hy
    obtain ⟨c, rfl⟩ := Option.ne_none_iff_exists'.mp hz
    simp only [onLine, decide_eq_true_eq]
    exact Nat.lt_trans
  split := by
    intro x y z hx hy hz
    obtain ⟨a, rfl⟩ := Option.ne_none_iff_exists'.mp hx
    obtain ⟨b, rfl⟩ := Option.ne_none_iff_exists'.mp hy
    obtain ⟨c, rfl⟩ := Option.ne_none_iff_exists'.mp hz
    simp only [onLine, decide_eq_true_eq]
    omega

/-- Two rows of one feature that is no number, a centroid, and three labels. -/
def numberless : Machine carriers :=
  { state := {}
    buffers := (((Store.insert {} ⟨(Memory.zeroed 8).write [0, 0, 0xC0, 0x7F, 0, 0, 0xC0, 0x7F],
      {}⟩).2.insert ⟨(Memory.zeroed 4).write [0, 0, 0x80, 0x3F], {}⟩).2.insert
      ⟨.zeroed 12, {}⟩).2 }

theorem labels_nearest_numberless :
    let data : Table (Option Nat) := ⟨#[some 6, none, some 7, some 2000, some 1], 1⟩
    let centroids : Table (Option Nat) := ⟨#[some 4, some 8, some 0], 1⟩
    let arguments := [BoundArgument.buffer ⟨0⟩ .f32 .read, .buffer ⟨1⟩ .f32 .read,
      .buffer ⟨2⟩ .i32 .write, .scalar ⟨.u32, 1⟩, .scalar ⟨.u32, 1⟩]
    let shape : LaunchShape := ⟨1, #v[2, 1, 1], none⟩
    let launched := execute Handle.index ⟨"nearest_centroid_f32", nearestCentroid, {}⟩ shape
      arguments numberless
    onLine.Ordered (· = none) ∧ Ready data centroids 3 5 ∧
      OnePass onLine data centroids 3 5 [0, -1, 1, -1, 2] ∧
      assignInOrder onLine data centroids 3 5 2 [2, 0, 1] [9, 9, 9, 9, 9, 9] =
        .ok [0, -1, 1, -1, 2, 9] ∧
      Serves shape arguments (countOf numberless) "nearest_centroid_f32" ⟨2⟩ .i32 2 ∧
      launched.1 = .ok () ∧ labelsOf launched.2 ⟨2⟩ = [-1, -1, 0] := by
  intro data centroids arguments shape launched
  obtain ⟨blocks, launches⟩ := labels_nearest
  have ready : Ready data centroids 3 5 :=
    ⟨by decide, ⟨by decide, by decide⟩, ⟨by decide, by decide⟩⟩
  obtain ⟨plain, pass⟩ := blocks onLine (· = none) data centroids 3 5 onLine_ordered ready
  -- Six is as far from four as from eight, and two thousand is too far from all.
  obtain rfl : plain = [0, -1, 1, -1, 2] :=
    (congrArg Progress.items pass.pass).symm.trans (by decide +kernel)
  have shuffled := pass.blocks 2 (by decide) [2, 0, 1] (by decide) [9, 9, 9, 9, 9, 9] (by decide)
  have asked : Serves shape arguments (countOf numberless) "nearest_centroid_f32" ⟨2⟩ .i32 2 :=
    .nearest rfl rfl rfl rfl rfl rfl rfl rfl (by decide) (by decide) (by decide) (by decide)
      (by decide +kernel) (by decide +kernel) (by decide +kernel)
  refine ⟨onLine_ordered, ready, pass, shuffled, asked, ?_⟩
  obtain ⟨points, centers, clusters, plain, reads, pass, done, left⟩ :=
    launches Handle.index {} shape arguments numberless _ ⟨2⟩ 2 rfl asked
  have given : Reads arguments numberless ⟨#[0x7FC00000, 0x7FC00000], 1⟩ ⟨#[0x3F800000], 1⟩ 1 := by
    have points : elementsOf numberless.buffers ⟨0⟩ .f32 = [0x7FC00000, 0x7FC00000] := by
      decide +kernel
    have centers : elementsOf numberless.buffers ⟨1⟩ .f32 = [0x3F800000] := by decide +kernel
    exact ⟨⟨_, _, rfl, points.symm⟩, ⟨_, _, rfl, centers.symm⟩, ⟨_, 1, rfl, rfl, rfl, rfl⟩,
      ⟨_, 1, rfl, rfl, rfl⟩⟩
  obtain ⟨rfl, rfl, rfl⟩ := reads.unique given
  obtain rfl : plain = [-1, -1] :=
    (congrArg Progress.items pass.pass).symm.trans (by decide +kernel)
  exact ⟨done, left.trans (by decide +kernel)⟩

end Builtin

end Offload.Cpu
