import Offload.Proofs.NearestLabel

/-!
# Range of labels

A label is signed, while the number of clusters is not. So a label names the cluster that it was
made from as long as the index is in the lower half of the 32-bit integers; from there on labels are
negative, and other than minus one. No check of a launch keeps the number of clusters below that.
-/

namespace Offload.Cpu

namespace Centroid

/-! ## Labels as signed integers -/

/-- A label says that there is no nearest centroid, or is the index of one of `clusters`. -/
def Names (clusters : Nat) (value : BitVec 32) : Prop :=
  value.toInt = -1 ∨ (0 ≤ value.toInt ∧ value.toInt < clusters)

instance (clusters : Nat) (value : BitVec 32) : Decidable (Names clusters value) :=
  inferInstanceAs (Decidable (_ ∨ _))

theorem toInt_label {c : Nat} (hc : c < 0x100000000) :
    (label (some c)).toInt = if c < 0x80000000 then (c : Int) else c - 0x100000000 := by
  rw [label, BitVec.toInt_eq_toNat_cond, BitVec.toNat_ofNat, Nat.mod_eq_of_lt hc]
  split <;> split <;> omega

/-- The number of clusters is itself no index, so no index wraps to minus one. -/
theorem names_label_iff {c clusters : Nat} (hc : c < clusters) (hw : clusters < 0x100000000) :
    Names clusters (label (some c)) ↔ c < 0x80000000 := by
  rw [Names, toInt_label (Nat.lt_trans hc hw)]
  split <;> omega

section Nearest

variable {F : Type} {m : Metric F} {d : Nat → F} {count c c' : Nat} {value : BitVec 32}

/-- Centroid `c` is the first of those at a least distance. -/
def Metric.Nearest (m : Metric F) (d : Nat → F) (count c : Nat) : Prop :=
  m.Least d count c ∧ ∀ k < c, ¬ m.Least d count k

theorem Metric.Nearest.unique (h : m.Nearest d count c) (h' : m.Nearest d count c') : c = c' :=
  Nat.le_antisymm (Nat.le_of_not_lt fun hl => h.2 c' hl h'.1)
    (Nat.le_of_not_lt fun hl => h'.2 c hl h.1)

theorem Metric.Nearest.not_far (h : m.Nearest d count c) :
    ¬ ∀ k < count, m.less (d k) m.infinity = false := fun far =>
  Bool.false_ne_true ((far c h.1.1).symm.trans h.1.2.1)

theorem Metric.Labels.eq_label (h : m.Labels d count value) (nearest : m.Nearest d count c) :
    value = label (some c) := by
  cases h with
  | nearest c' least first => rw [← Metric.Nearest.unique ⟨least, first⟩ nearest, label]
  | none far => exact absurd far nearest.not_far

/-- A label names a cluster if the nearest centroid has an index that a label can hold. -/
theorem Metric.Labels.names_iff (h : m.Labels d count value) (hw : count < 0x100000000) :
    Names count value ↔ ∀ c, m.Nearest d count c → c < 0x80000000 := by
  cases h with
  | nearest c least first =>
      refine (names_label_iff least.1 hw).trans
        ⟨fun hc c' nearest => ?_, fun hc => hc c ⟨least, first⟩⟩
      rwa [← Metric.Nearest.unique ⟨least, first⟩ nearest]
  | none far => exact iff_of_true (.inl (by decide)) fun c nearest => absurd far nearest.not_far

end Nearest

/-- Of a table of one feature, a row is one entry. -/
theorem Table.rowAt_of_dim_one {F : Type} {t : Table F} {index : Nat} {x : F} (hd : t.dim = 1)
    (hx : t.data.toList[index]? = some x) : t.rowAt index = [x] := by
  rw [rowAt, hd, Nat.mul_one, Array.toList_extract, List.extract_eq_take_drop,
    Nat.add_sub_cancel_left, List.take_one, List.head?_drop, hx]
  rfl

end Centroid

namespace Builtin

open Centroid

/-! ## Launches -/

variable {address : Handle → Nat} {options : BuildOptions} {shape : LaunchShape}
  {arguments : List BoundArgument} {m : Machine carriers}

/-- A launch of a builtin kernel that succeeds had its arguments bound, and they were what the
kernel asks for. -/
theorem serves_of_ok {name : String} {code : Implementation} (hk : (name, code) ∈ all)
    (ho : (execute address ⟨name, code, options⟩ shape arguments m).1 = .ok ()) :
    ∃ bound out t n, Invocation.bind address arguments = .ok bound ∧
      Serves shape arguments (countOf m) name out t n := by
  cases hb : Invocation.bind address arguments with
  | error fault =>
      simp only [execute, hb] at ho
      cases ho
  | ok bound =>
      simp only [execute, hb] at ho
      let first := Stage.first ⟨name, code, options⟩ shape bound m
      have hs : Settles first.machine (Leaves shape arguments first.machine name)
          (first.run bound.slots) := by
        rw [Invocation.bind_slots hb]
        exact settles _ arguments first.machine hk
      obtain ⟨_, ⟨out, t, n, _, serves, _⟩, _⟩ := (runBound_of_settles hs).2 ho
      exact ⟨bound, out, t, n, rfl, countOf_acquired m bound.locks ▸ serves⟩

/-- Labels go to the third argument, one for each point of the first axis. -/
theorem Serves.labels_target {count : Handle → ElementType → Nat} {out : Handle} {t : ElementType}
    {n : Nat} (h : Serves shape arguments count "nearest_centroid_f32" out t n) :
    t = .i32 ∧ n = shape.globalSize 0 ∧
      ∃ access, arguments[2]? = some (.buffer out .i32 access) := by
  generalize hn : "nearest_centroid_f32" = name at h
  cases h with
  | fill => exact absurd hn (by decide)
  | axpy => exact absurd hn (by decide)
  | nearest _ _ target => exact ⟨rfl, rfl, _, target⟩

theorem Reads.clusters_lt {data centroids : Table Single.Bits} {clusters : Nat}
    (h : Reads arguments m data centroids clusters) : clusters < 0x100000000 := by
  obtain ⟨-, -, -, _, bits, -, -, rfl⟩ := h
  exact bits.isLt

/-- The distances of centroids from a row. -/
def distancesAt (data centroids : Table Single.Bits) (row c : Nat) : Single.Bits :=
  squared.distance (data.rowAt row) (centroids.rowAt c)

/-! ## A row and many clusters -/

/-- The features of `far` centroids away from the origin, and of one at it. -/
def lastAtOrigin (far : Nat) : List ElementType.f32.Bits :=
  List.replicate far 0x3F800000 ++ [0]

/-- One row at the origin, centroids of which only the last is there, and a label. -/
def oneRow (far : Nat) : Machine carriers :=
  { state := {}
    buffers := (((Store.insert {} ⟨.zeroed 4, {}⟩).2.insert
      ⟨(Memory.zeroed ((far + 1) * 4)).store .f32 (lastAtOrigin far), {}⟩).2.insert
      ⟨.zeroed 4, {}⟩).2 }

/-- The arguments of a labelling of one feature with all of the centroids. -/
def oneRowArguments (far : Nat) : List BoundArgument :=
  [.buffer ⟨0⟩ .f32 .read, .buffer ⟨1⟩ .f32 .read, .buffer ⟨2⟩ .i32 .write, .scalar ⟨.u32, 1⟩,
    .scalar ⟨.u32, BitVec.ofNat 32 (far + 1)⟩]

/-- A launch of one work item. -/
def oneItem : LaunchShape := ⟨1, #v[1, 1, 1], none⟩

section Many

-- `far` stays a variable here: no list of as many elements as labels can tell is ever computed.
variable {far c : Nat}

theorem length_lastAtOrigin (far : Nat) : (lastAtOrigin far).length = far + 1 := by
  rw [lastAtOrigin, List.length_append, List.length_replicate, List.length_singleton]

theorem getElem?_lastAtOrigin (hc : c ≤ far) :
    (lastAtOrigin far)[c]? = some (if c < far then 0x3F800000 else 0) := by
  rw [lastAtOrigin]
  split
  · next hl =>
      rw [List.getElem?_append_left (by rwa [List.length_replicate]),
        List.getElem?_replicate_of_lt hl]
  · next hl =>
      obtain rfl : c = far := Nat.le_antisymm hc (Nat.le_of_not_lt hl)
      have hr : (List.replicate c (0x3F800000 : ElementType.f32.Bits)).length = c :=
        List.length_replicate
      rw [List.getElem?_append_right (Nat.le_of_eq hr), hr, Nat.sub_self]
      rfl

theorem elementsOf_centroids (far : Nat) :
    elementsOf (oneRow far).buffers ⟨1⟩ .f32 = lastAtOrigin far := by
  have room : (Memory.zeroed ((far + 1) * 4)).size / ElementType.f32.size = far + 1 :=
    Nat.mul_div_cancel _ (by decide)
  have whole : ((Memory.zeroed ((far + 1) * 4)).elements .f32).length = far + 1 := by
    rw [Memory.elements, ElementType.length_elements, Memory.length_toList, room]
  show ((Memory.zeroed ((far + 1) * 4)).store .f32 (lastAtOrigin far)).elements .f32 = _
  have fits := Nat.le_of_eq ((length_lastAtOrigin far).trans room.symm)
  rw [Memory.elements_store _ fits, length_lastAtOrigin,
    List.drop_eq_nil_of_le (Nat.le_of_eq whole), List.append_nil]

theorem bytesOf_row (far : Nat) : bytesOf (oneRow far) ⟨0⟩ = some [0, 0, 0, 0] := rfl

theorem elementsOf_row (far : Nat) : elementsOf (oneRow far).buffers ⟨0⟩ .f32 = [0] := by
  rw [elementsOf_eq, bytesOf_row]
  decide +kernel

theorem bytesOf_label (far : Nat) : bytesOf (oneRow far) ⟨2⟩ = some [0, 0, 0, 0] := rfl

theorem elementsOf_label (far : Nat) : elementsOf (oneRow far).buffers ⟨2⟩ .i32 = [0] := by
  rw [elementsOf_eq, bytesOf_label]
  decide +kernel

theorem toNat_clusters (h : far + 1 < 0x100000000) :
    (BitVec.ofNat 32 (far + 1)).toNat = far + 1 := by
  rw [BitVec.toNat_ofNat, Nat.mod_eq_of_lt h]

theorem serves_oneRow (h : far + 1 < 0x100000000) :
    Serves oneItem (oneRowArguments far) (countOf (oneRow far)) "nearest_centroid_f32" ⟨2⟩ .i32
      1 := by
  have clusters : (BitVec.ofNat 32 (far + 1)).toNat * 1 = far + 1 := by
    rw [toNat_clusters h, Nat.mul_one]
  have data : countOf (oneRow far) ⟨0⟩ .f32 = 1 := by
    rw [← length_elementsOf, elementsOf_row]
    rfl
  have centers : countOf (oneRow far) ⟨1⟩ .f32 = far + 1 := by
    rw [← length_elementsOf, elementsOf_centroids, length_lastAtOrigin]
  have labels : countOf (oneRow far) ⟨2⟩ .i32 = 1 := by
    rw [← length_elementsOf, elementsOf_label]
    rfl
  refine .nearest rfl rfl rfl rfl rfl rfl rfl rfl (by decide) ?_ (by decide) ?_
    (Nat.le_of_eq data.symm) ?_ (Nat.le_of_eq labels.symm)
  · change 0 < (BitVec.ofNat 32 (far + 1)).toNat
    omega
  · change (BitVec.ofNat 32 (far + 1)).toNat * 1 < Word.limit
    rw [clusters]
    exact Nat.lt_trans h (by decide)
  · change (BitVec.ofNat 32 (far + 1)).toNat * 1 ≤ countOf (oneRow far) ⟨1⟩ .f32
    exact Nat.le_of_eq (clusters.trans centers.symm)

/-- The tables of the row and the centroids. -/
theorem reads_oneRow (h : far + 1 < 0x100000000) :
    Reads (oneRowArguments far) (oneRow far) ⟨#[0], 1⟩ ⟨(lastAtOrigin far).toArray, 1⟩ (far + 1) :=
  ⟨⟨_, _, rfl, (elementsOf_row far).symm⟩, ⟨_, _, rfl, (elementsOf_centroids far).symm⟩,
    ⟨_, 1, rfl, rfl, rfl, rfl⟩, ⟨_, _, rfl, rfl, (toNat_clusters h).symm⟩⟩

theorem distancesAt_oneRow (hc : c ≤ far) :
    distancesAt ⟨#[0], 1⟩ ⟨(lastAtOrigin far).toArray, 1⟩ 0 c =
      if c < far then 0x3F800000 else 0 := by
  have row : (⟨#[0], 1⟩ : Table Single.Bits).rowAt 0 = [0] := rfl
  have centroid : (⟨(lastAtOrigin far).toArray, 1⟩ : Table Single.Bits).rowAt c =
      [if c < far then 0x3F800000 else 0] :=
    Table.rowAt_of_dim_one rfl (getElem?_lastAtOrigin hc)
  rw [distancesAt, row, centroid]
  split
  · decide +kernel
  · decide +kernel

/-- The last centroid is the nearest. -/
theorem nearest_oneRow (far : Nat) :
    squared.Nearest (distancesAt ⟨#[0], 1⟩ ⟨(lastAtOrigin far).toArray, 1⟩ 0) (far + 1) far := by
  have last := distancesAt_oneRow (Nat.le_refl far)
  rw [if_neg (Nat.lt_irrefl far)] at last
  refine ⟨⟨Nat.lt_succ_self far, ?_, fun k hk _ => ?_⟩, fun k hk least => ?_⟩
  · rw [last]
    decide
  · rw [last, distancesAt_oneRow (Nat.le_of_lt_succ hk)]
    split <;> decide
  · have near := least.2.2 far (Nat.lt_succ_self far)
    rw [last, distancesAt_oneRow (Nat.le_of_lt hk), if_pos hk] at near
    exact absurd (near (by decide)) (by decide)

/-- The label is made from the index of the last centroid, however many there are. -/
theorem label_oneRow (h : far + 1 < 0x100000000) :
    let launched := execute Handle.index ⟨"nearest_centroid_f32", nearestCentroid, {}⟩ oneItem
      (oneRowArguments far) (oneRow far)
    launched.1 = .ok () ∧ labelsOf launched.2 ⟨2⟩ = [label (some far)] := by
  intro launched
  obtain ⟨data, centroids, clusters, reads, ready, done, left⟩ :=
    execute_nearestCentroid {} rfl (serves_oneRow h)
  obtain ⟨rfl, rfl, rfl⟩ := reads.unique (reads_oneRow h)
  have plain := onePass squared squared_ordered ready
  refine ⟨done, left.trans ?_⟩
  rw [plain.pass, labelsOf, elementsOf_label]
  have value := (plain.nearest 0 _ rfl).eq_label (nearest_oneRow far)
  exact congrArg (· :: []) value

end Many

/-! ## Labels that are written -/

/-- A labelling that succeeds writes one label for each row. It names a cluster, or says that there
is none, if the index of the nearest centroid is in the lower half of the 32-bit integers, and only
then; so all labels do if there are no more clusters than that. -/
theorem labels_name_clusters_iff (address : Handle → Nat) (options : BuildOptions)
    (shape : LaunchShape) (arguments : List BoundArgument) (m : Machine carriers) :
    let launched := execute address ⟨"nearest_centroid_f32", nearestCentroid, options⟩ shape
      arguments m
    launched.1 = .ok () → ∃ labels access data centroids clusters written,
      arguments[2]? = some (.buffer labels .i32 access) ∧
      Reads arguments m data centroids clusters ∧ written.length = shape.globalSize 0 ∧
      labelsOf launched.2 labels = written ++ (labelsOf m labels).drop (shape.globalSize 0) ∧
      (∀ row value, written[row]? = some value →
        squared.Labels (distancesAt data centroids row) clusters value ∧
        (Names clusters value ↔
          ∀ c, squared.Nearest (distancesAt data centroids row) clusters c → c < 0x80000000)) ∧
      (clusters ≤ 0x80000000 → ∀ value ∈ written, Names clusters value) := by
  intro launched ho
  obtain ⟨bound, labels, t, rows, hb, serves⟩ :=
    serves_of_ok (List.mem_cons_of_mem _ (List.mem_cons_of_mem _ List.mem_cons_self)) ho
  obtain ⟨rfl, rfl, access, target⟩ := serves.labels_target
  obtain ⟨data, centroids, clusters, reads, ready, -, left⟩ :=
    execute_nearestCentroid options hb serves
  have plain := onePass squared squared_ordered ready
  rw [plain.pass] at left
  have ranged row value (hv : _ = some value) :=
    (plain.nearest row value hv).names_iff reads.clusters_lt
  refine ⟨labels, access, data, centroids, clusters, _, target, reads, plain.length, left,
    fun row value hv => ⟨plain.nearest row value hv, ranged row value hv⟩, fun few value hv => ?_⟩
  obtain ⟨row, hr⟩ := List.getElem?_of_mem hv
  exact (ranged row value hr).mpr fun c nearest => Nat.lt_of_lt_of_le nearest.1.1 few

theorem labels_name_clusters_iff_three :
    let launched := execute Handle.index ⟨"nearest_centroid_f32", nearestCentroid, {}⟩ oneItem
      (oneRowArguments 2) (oneRow 2)
    launched.1 = .ok () ∧ ∀ value ∈ labelsOf launched.2 ⟨2⟩, Names 3 value := by
  intro launched
  have many : 2 + 1 < 0x100000000 := by decide
  have done := (label_oneRow many).1
  obtain ⟨labels, access, data, centroids, clusters, written, target, reads, -, left, -, named⟩ :=
    labels_name_clusters_iff Handle.index {} oneItem (oneRowArguments 2) (oneRow 2) done
  obtain ⟨rfl, rfl, rfl⟩ := reads.unique (reads_oneRow many)
  cases target
  have all : labelsOf launched.2 ⟨2⟩ = written := by
    rw [left, labelsOf, elementsOf_label]
    exact List.append_nil written
  exact ⟨done, all ▸ named (by decide)⟩

/-- Of one more cluster than labels can name, the last one is nearest, and the label is negative. -/
theorem last_cluster_unnamed :
    let launched := execute Handle.index ⟨"nearest_centroid_f32", nearestCentroid, {}⟩ oneItem
      (oneRowArguments 2147483648) (oneRow 2147483648)
    launched.1 = .ok () ∧ labelsOf launched.2 ⟨2⟩ = [0x80000000] ∧
      (0x80000000 : BitVec 32).toInt = -2147483648 ∧ ¬ Names 2147483649 0x80000000 := by
  obtain ⟨done, left⟩ := label_oneRow (by decide : 2147483648 + 1 < 0x100000000)
  exact ⟨done, left.trans (by decide), by decide, by decide⟩

end Builtin

end Offload.Cpu
