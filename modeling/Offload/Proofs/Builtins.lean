import Offload.Cpu.Builtin
import Offload.Proofs.BlockSize
import Offload.Proofs.Frame
import Offload.Proofs.Labelling

/-!
# Builtin kernels, all or nothing

A builtin kernel asks for its arguments and checks them before it stores, and then nothing is left
that could fail. So a launch of one that fails has changed no buffer, and one that succeeds has
changed the first elements of its output. It succeeds if it is given what it asks for.
-/

namespace Offload

namespace Cpu

/-- Whole elements of a type in the buffer behind a handle. -/
def countOf (m : Machine carriers) (h : Handle) (t : ElementType) : Nat :=
  ((bytesOf m h).getD []).length / t.size

theorem countOf_congr {m m' : Machine carriers} {h : Handle} (hm : bytesOf m' h = bytesOf m h)
    (t : ElementType) : countOf m' h t = countOf m h t := by
  rw [countOf, hm, ← countOf]

theorem length_elementsOf (m : Machine carriers) (h : Handle) (t : ElementType) :
    (elementsOf m.buffers h t).length = countOf m h t := by
  rw [countOf, ← ElementType.length_elements]
  unfold elementsOf bytesOf
  cases m.buffers.get? h with
  | none => rw [ElementType.length_elements]; simp
  | some a => rfl

/-! ## Answers -/

section Answers

variable {s : Store Allocation} {x : BoundArgument} {i : Nat} {t : ElementType}

theorem checkType_eq_ok_iff {α : Type} {type : ElementType} {a b : α} :
    (do checkType i t type; return a) = Except.ok b ↔ type = t ∧ a = b := by
  unfold checkType
  split
  · next h => exact ⟨fun he => ⟨h, Except.ok.inj he⟩, fun he => congrArg Except.ok he.2⟩
  · next h => exact ⟨fun he => (nomatch he), fun he => absurd he.1 h⟩

theorem checkType_eq_error_iff {α : Type} {type : ElementType} {a : α} {f : Fault} :
    (do checkType i t type; return a) = Except.error f ↔
      type ≠ t ∧ f = .argumentType i t type := by
  unfold checkType
  split
  · next h => exact ⟨fun he => (nomatch he), fun he => absurd h he.1⟩
  · next h => exact ⟨fun he => ⟨h, (Except.error.inj he).symm⟩, fun he => congrArg _ he.2.symm⟩

section Buffers

variable {handle : Handle} {type : ElementType} {access : Access}

theorem answer_input : (slotOf (.buffer handle type access)).answer s i (.input t) =
    (do checkType i t type; return elementsOf s handle t) := by
  simp only [slotOf]
  split <;> rfl

theorem answer_output (hw : access.writes = true) :
    (slotOf (.buffer handle type access)).answer s i (.output t) =
      (do checkType i t type; return ⟨i, elementsOf s handle t⟩) := by
  simp only [slotOf, hw, if_true]
  rfl

theorem answer_readOnly (hw : access.writes = false) :
    (slotOf (.buffer handle type access)).answer s i (.output t) = .error (.readOnly i) := by
  simp only [slotOf, hw]
  rfl

end Buffers

/-- A request for a buffer is granted to a buffer of its type, and to nothing else. -/
theorem answer_input_iff {elements : List t.Bits} :
    (slotOf x).answer s i (.input t) = .ok elements ↔
      ∃ handle access, x = .buffer handle t access ∧ elementsOf s handle t = elements := by
  cases x with
  | scalar value =>
      constructor
      · intro h
        cases h
      · rintro ⟨_, _, h, _⟩
        cases h
  | buffer handle type access =>
      rw [answer_input, checkType_eq_ok_iff]
      constructor
      · rintro ⟨rfl, he⟩
        exact ⟨handle, access, rfl, he⟩
      · rintro ⟨_, _, h, he⟩
        cases h
        exact ⟨rfl, he⟩

theorem answer_output_iff {g : Granted t} :
    (slotOf x).answer s i (.output t) = .ok g ↔
      ∃ handle access, x = .buffer handle t access ∧ access.writes = true ∧
        ⟨i, elementsOf s handle t⟩ = g := by
  cases x with
  | scalar value =>
      constructor
      · intro h
        cases h
      · rintro ⟨_, _, h, _⟩
        cases h
  | buffer handle type access =>
      cases hw : access.writes with
      | false =>
          rw [answer_readOnly hw]
          constructor
          · intro h
            cases h
          · rintro ⟨_, _, h, hw', _⟩
            cases h
            rw [hw] at hw'
            cases hw'
      | true =>
          rw [answer_output hw, checkType_eq_ok_iff]
          constructor
          · rintro ⟨rfl, he⟩
            exact ⟨handle, access, rfl, hw, he⟩
          · rintro ⟨_, _, h, _, he⟩
            cases h
            exact ⟨rfl, he⟩

theorem answer_scalar_iff {bits : t.Bits} :
    (slotOf x).answer s i (.scalar t) = .ok bits ↔
      ∃ value, x = .scalar value ∧ value.get? t = some bits := by
  cases x with
  | scalar value =>
      simp only [slotOf, Slot.answer, BoundArgument.scalar.injEq, exists_eq_left']
      cases value.get? t <;> simp
  | buffer handle type access =>
      constructor
      · intro h
        simp only [slotOf] at h
        split at h <;> cases h
      · rintro ⟨_, h, _⟩
        cases h

end Answers

/-! ## Steps that are granted -/

section Steps

open Procedure

variable {m : Machine carriers} {arguments : List BoundArgument} {cursor i : Nat} {α : Type}
  {t : ElementType} {slots : List Slot}

theorem run_lift {x : Except Panic α} {a : α} {f : α → Procedure Unit} (hx : x = .ok a) :
    (Procedure.lift x >>= f).run slots cursor m = (f a).run slots cursor m := by
  rw [hx]
  rfl

theorem run_ensureLength {length needed : Nat} {f : Unit → Procedure Unit}
    (hn : needed ≤ length) :
    (Procedure.ensureLength i length needed >>= f).run slots cursor m =
      (f ()).run slots cursor m := by
  rw [Procedure.ensureLength, if_neg (Nat.not_lt_of_le hn)]
  rfl

theorem run_front {elements : List α} {count : Nat} {f : List α → Procedure Unit}
    (hc : count ≤ elements.length) :
    (Procedure.front elements count >>= f).run slots cursor m =
      (f (elements.take count)).run slots cursor m := by
  rw [Procedure.front, if_neg (Nat.not_lt_of_le hc)]
  rfl

theorem run_request {x : BoundArgument} {r : Request} {answer : r.Answer}
    {f : r.Answer → Procedure Unit} (hx : arguments[cursor]? = some x)
    (ha : (slotOf x).answer m.buffers cursor r = .ok answer) :
    (Procedure.request r >>= f).run (arguments.map slotOf) cursor m =
      (f answer).run (arguments.map slotOf) (cursor + 1) m := by
  have hs : (arguments.map slotOf)[cursor]? = some (slotOf x) := by
    rw [List.getElem?_map, hx, Option.map_some]
  show (Procedure.ask r _).run (arguments.map slotOf) cursor m = _
  simp only [run, hs, ha]
  rfl

variable {handle : Handle} {access : Access}

theorem run_input {f : List t.Bits → Procedure Unit}
    (hx : arguments[cursor]? = some (.buffer handle t access)) :
    (Procedure.input t >>= f).run (arguments.map slotOf) cursor m =
      (f (elementsOf m.buffers handle t)).run (arguments.map slotOf) (cursor + 1) m :=
  run_request hx (answer_input_iff.mpr ⟨handle, access, rfl, rfl⟩)

theorem run_output {f : Granted t → Procedure Unit}
    (hx : arguments[cursor]? = some (.buffer handle t access)) (hw : access.writes = true) :
    (Procedure.output t >>= f).run (arguments.map slotOf) cursor m =
      (f ⟨cursor, elementsOf m.buffers handle t⟩).run (arguments.map slotOf) (cursor + 1) m :=
  run_request hx (answer_output_iff.mpr ⟨handle, access, rfl, hw, rfl⟩)

theorem run_scalar {value : Scalar} {bits : t.Bits} {f : t.Bits → Procedure Unit}
    (hx : arguments[cursor]? = some (.scalar value)) (hv : value.get? t = some bits) :
    (Procedure.scalar t >>= f).run (arguments.map slotOf) cursor m =
      (f bits).run (arguments.map slotOf) (cursor + 1) m :=
  run_request hx (answer_scalar_iff.mpr ⟨value, rfl, hv⟩)

theorem run_store {elements values : List t.Bits}
    (hx : arguments[i]? = some (.buffer handle t access)) (hw : access.writes = true) :
    ((⟨i, elements⟩ : Granted t).store values).run (arguments.map slotOf) cursor m =
      (.ok (), { m with buffers := Slot.store m.buffers t values (.exclusive handle t) }) := by
  have hs : (arguments.map slotOf)[i]? = some (.exclusive handle t) := by
    rw [List.getElem?_map, hx, Option.map_some, slotOf, if_pos hw]
  simp only [Granted.store, run, hs]

/-- Nothing comes after the store if no panic was met on the way to it. -/
theorem run_storeMade {elements : List t.Bits} {made : Centroid.Progress t.Bits}
    (hx : arguments[i]? = some (.buffer handle t access)) (hw : access.writes = true)
    (hp : made.panic? = none) :
    (do
      (⟨i, elements⟩ : Granted t).store made.items
      Procedure.finish made.panic?).run (arguments.map slotOf) cursor m =
      (.ok (), { m with buffers := Slot.store m.buffers t made.items (.exclusive handle t) }) := by
  rw [hp]
  exact run_store hx hw

end Steps

/-! ## Runs that settle -/

/-- A run succeeds and leaves `Done`, or leaves the machine as it was. -/
def Settles (m : Machine carriers) (Done : Machine carriers → Prop) :
    Outcome Fault Unit × Machine carriers → Prop
  | (.ok (), after) => Done after
  | (_, after) => after = m

namespace Settles

variable {m : Machine carriers} {Done : Machine carriers → Prop} {arguments : List BoundArgument}
  {cursor : Nat} {α : Type} {t : ElementType}

open Procedure

theorem lift {x : Except Panic α} {f : α → Procedure Unit} {slots : List Slot}
    (h : ∀ a, x = .ok a → Settles m Done ((f a).run slots cursor m)) :
    Settles m Done ((Procedure.lift x >>= f).run slots cursor m) := by
  cases x with
  | ok a => exact h a rfl
  | error p => exact rfl

theorem ensureLength {index length needed : Nat} {f : Unit → Procedure Unit} {slots : List Slot}
    (h : needed ≤ length → Settles m Done ((f ()).run slots cursor m)) :
    Settles m Done ((Procedure.ensureLength index length needed >>= f).run slots cursor m) := by
  unfold Procedure.ensureLength
  split
  · exact rfl
  · next hl => exact h (Nat.le_of_not_lt hl)

theorem front {elements : List α} {count : Nat} {f : List α → Procedure Unit} {slots : List Slot}
    (h : count ≤ elements.length → Settles m Done ((f (elements.take count)).run slots cursor m)) :
    Settles m Done ((Procedure.front elements count >>= f).run slots cursor m) := by
  unfold Procedure.front
  split
  · exact rfl
  · next hl => exact h (Nat.le_of_not_lt hl)

theorem request {r : Request} {f : r.Answer → Procedure Unit} {slots : List Slot}
    (h : ∀ slot answer, slots[cursor]? = some slot →
      slot.answer m.buffers cursor r = .ok answer →
      Settles m Done ((f answer).run slots (cursor + 1) m)) :
    Settles m Done ((Procedure.request r >>= f).run slots cursor m) := by
  show Settles m Done ((Procedure.ask r _).run slots cursor m)
  simp only [run]
  cases hs : slots[cursor]? with
  | none => exact rfl
  | some slot =>
      simp only
      cases ha : slot.answer m.buffers cursor r with
      | error e => exact rfl
      | ok answer => exact h slot answer hs ha

section Arguments

theorem request_argument {r : Request} {f : r.Answer → Procedure Unit}
    (h : ∀ x answer, arguments[cursor]? = some x →
      (slotOf x).answer m.buffers cursor r = .ok answer →
      Settles m Done ((f answer).run (arguments.map slotOf) (cursor + 1) m)) :
    Settles m Done ((Procedure.request r >>= f).run (arguments.map slotOf) cursor m) := by
  refine request fun slot answer hs ha => ?_
  obtain ⟨x, hx, rfl⟩ := Option.map_eq_some_iff.mp (List.getElem?_map.symm.trans hs)
  exact h x answer hx ha

theorem input {f : List t.Bits → Procedure Unit}
    (h : ∀ handle access, arguments[cursor]? = some (.buffer handle t access) →
      Settles m Done
        ((f (elementsOf m.buffers handle t)).run (arguments.map slotOf) (cursor + 1) m)) :
    Settles m Done ((Procedure.input t >>= f).run (arguments.map slotOf) cursor m) := by
  refine request_argument fun x elements hx ha => ?_
  obtain ⟨handle, access, rfl, rfl⟩ := answer_input_iff.mp ha
  exact h handle access hx

theorem output {f : Granted t → Procedure Unit}
    (h : ∀ handle access, arguments[cursor]? = some (.buffer handle t access) →
      access.writes = true →
      Settles m Done
        ((f ⟨cursor, elementsOf m.buffers handle t⟩).run (arguments.map slotOf) (cursor + 1) m)) :
    Settles m Done ((Procedure.output t >>= f).run (arguments.map slotOf) cursor m) := by
  refine request_argument fun x g hx ha => ?_
  obtain ⟨handle, access, rfl, hw, rfl⟩ := answer_output_iff.mp ha
  exact h handle access hx hw

theorem scalar {f : t.Bits → Procedure Unit}
    (h : ∀ value bits, arguments[cursor]? = some (.scalar value) → value.get? t = some bits →
      Settles m Done ((f bits).run (arguments.map slotOf) (cursor + 1) m)) :
    Settles m Done ((Procedure.scalar t >>= f).run (arguments.map slotOf) cursor m) := by
  refine request_argument fun x bits hx ha => ?_
  obtain ⟨value, rfl, hv⟩ := answer_scalar_iff.mp ha
  exact h value bits hx hv

theorem store {i : Nat} {handle : Handle} {access : Access} {elements values : List t.Bits}
    (hx : arguments[i]? = some (.buffer handle t access)) (hw : access.writes = true)
    (h : Done { m with buffers := Slot.store m.buffers t values (.exclusive handle t) }) :
    Settles m Done
      (((⟨i, elements⟩ : Granted t).store values).run (arguments.map slotOf) cursor m) := by
  rw [run_store hx hw]
  exact h

theorem storeMade {i : Nat} {handle : Handle} {access : Access} {elements : List t.Bits}
    {made : Centroid.Progress t.Bits}
    (hx : arguments[i]? = some (.buffer handle t access)) (hw : access.writes = true)
    (hp : made.panic? = none)
    (h : Done { m with buffers := Slot.store m.buffers t made.items (.exclusive handle t) }) :
    Settles m Done ((do
      (⟨i, elements⟩ : Granted t).store made.items
      Procedure.finish made.panic?).run (arguments.map slotOf) cursor m) := by
  rw [run_storeMade hx hw hp]
  exact h

end Arguments

end Settles

/-! ## The kernels -/

namespace Builtin

/-- A builtin kernel has the arguments that it asks for, and they hold the elements that it touches:
the first `n` of its output, which it stores into, among them. -/
inductive Serves (shape : LaunchShape) (arguments : List BoundArgument)
    (count : Handle → ElementType → Nat) : String → Handle → ElementType → Nat → Prop where
  | fill {out access value bits n} (items : shape.itemCount = .ok n)
      (target : arguments[0]? = some (.buffer out .f32 access)) (writes : access.writes = true)
      (constant : arguments[1]? = some (.scalar value)) (float : value.get? .f32 = some bits)
      (room : n ≤ count out .f32) : Serves shape arguments count "fill_f32" out .f32 n
  | axpy {factor bits x a y access n} (items : shape.itemCount = .ok n)
      (constant : arguments[0]? = some (.scalar factor)) (float : factor.get? .f32 = some bits)
      (source : arguments[1]? = some (.buffer x .f32 a)) (given : n ≤ count x .f32)
      (target : arguments[2]? = some (.buffer y .f32 access)) (writes : access.writes = true)
      (room : n ≤ count y .f32) : Serves shape arguments count "axpy_f32" y .f32 n
  | nearest {data a centroids b labels access size dim number clusters}
      (points : arguments[0]? = some (.buffer data .f32 a))
      (centers : arguments[1]? = some (.buffer centroids .f32 b))
      (target : arguments[2]? = some (.buffer labels .i32 access)) (writes : access.writes = true)
      (features : arguments[3]? = some (.scalar size)) (isDim : size.get? .u32 = some dim)
      (groups : arguments[4]? = some (.scalar number))
      (isClusters : number.get? .u32 = some clusters)
      (dim_pos : 0 < dim.toNat) (clusters_pos : 0 < clusters.toNat)
      (dataWord : shape.globalSize 0 * dim.toNat < Word.limit)
      (centersWord : clusters.toNat * dim.toNat < Word.limit)
      (dataGiven : shape.globalSize 0 * dim.toNat ≤ count data .f32)
      (centersGiven : clusters.toNat * dim.toNat ≤ count centroids .f32)
      (room : shape.globalSize 0 ≤ count labels .i32) :
      Serves shape arguments count "nearest_centroid_f32" labels .i32 (shape.globalSize 0)

/-- What a builtin kernel leaves that succeeds: its output has new first elements. -/
def Leaves (shape : LaunchShape) (arguments : List BoundArgument) (m : Machine carriers)
    (name : String) (after : Machine carriers) : Prop :=
  ∃ out t n, ∃ values : List t.Bits, Serves shape arguments (countOf m) name out t n ∧
    values.length ≤ n ∧
    after = { m with buffers := Slot.store m.buffers t values (.exclusive out t) }

variable (launch : Launch) (arguments : List BoundArgument) (m : Machine carriers)

theorem fill_settles : Settles m (Leaves launch.shape arguments m "fill_f32")
    ((fill launch).run (arguments.map slotOf) 0 m) := by
  refine .lift fun n hn => .output fun out access target writes => ?_
  refine .scalar fun value bits constant float => .ensureLength fun room => .front fun _ => ?_
  rw [length_elementsOf] at room
  refine .store target writes ⟨out, .f32, n, _, .fill hn target writes constant float room, ?_, rfl⟩
  rw [List.length_map]
  exact List.length_take_le _ _

theorem axpy_settles : Settles m (Leaves launch.shape arguments m "axpy_f32")
    ((axpy launch).run (arguments.map slotOf) 0 m) := by
  refine .lift fun n hn => .scalar fun factor bits constant float => ?_
  refine .input fun x a source => .output fun y access target writes => ?_
  refine .ensureLength fun given => .ensureLength fun room => .front fun _ => .front fun _ => ?_
  rw [length_elementsOf] at given room
  refine .store target writes
    ⟨y, .f32, n, _, .axpy hn constant float source given target writes room, ?_, rfl⟩
  rw [List.length_map, List.length_zip]
  exact Nat.le_trans (Nat.min_le_left _ _) (List.length_take_le _ _)

/-- There is at least one feature, so the number of rows is a word as their product is. -/
theorem rows_lt_limit {rows dim : Nat} (hd : 0 < dim) (hw : rows * dim < Word.limit) :
    rows < Word.limit :=
  Nat.lt_of_le_of_lt (Nat.le_mul_of_pos_right _ hd) hw

/-- Once the lengths are checked, every label can be made. -/
theorem ready {data centroids : List Single.Bits} {rows dim clusters : Nat} (hd : 0 < dim)
    (dataWord : rows * dim < Word.limit) (centersWord : clusters * dim < Word.limit)
    (dataGiven : rows * dim ≤ data.length) (centersGiven : clusters * dim ≤ centroids.length) :
    Centroid.Ready ⟨data.toArray, dim⟩ ⟨centroids.toArray, dim⟩ clusters rows :=
  ⟨rows_lt_limit hd dataWord, ⟨dataWord, dataGiven⟩, ⟨centersWord, centersGiven⟩⟩

theorem labels_made {data centroids : Centroid.Table Single.Bits} {clusters rows : Nat}
    (h : Centroid.Ready data centroids clusters rows) (block : Nat) :
    Centroid.assignBlocks squared data centroids clusters rows (max block 1) =
      Centroid.assignRows squared data centroids clusters 0 rows := by
  rw [Centroid.assignBlocks_eq squared h (Nat.le_max_right block 1),
    Centroid.assignRows_all squared h]

theorem nearestCentroid_settles :
    Settles m (Leaves launch.shape arguments m "nearest_centroid_f32")
      ((nearestCentroid launch).run (arguments.map slotOf) 0 m) := by
  refine .input fun data a points => .input fun centroids b centers => ?_
  refine .output fun labels access target writes => .scalar fun size dim features isDim => ?_
  refine .scalar fun number clusters groups isClusters => ?_
  dsimp only
  split
  · exact rfl
  · next hp =>
      rw [not_or] at hp
      have dim_pos := Nat.pos_of_ne_zero hp.2
      split
      · next dataLength centersLength hd hc =>
          obtain ⟨dataWord, rfl⟩ := Word.mul?_eq_some_iff.mp hd
          obtain ⟨centersWord, rfl⟩ := Word.mul?_eq_some_iff.mp hc
          refine .ensureLength fun dataGiven => .ensureLength fun centersGiven => ?_
          refine .ensureLength fun room => .lift fun block _ => .front fun _ => ?_
          have made := ready dim_pos dataWord centersWord dataGiven centersGiven
          have labelled := (labels_made made block).trans (Centroid.assignRows_all squared made)
          have length := congrArg (·.items.length) labelled
          rw [List.length_map, List.length_range] at length
          rw [length_elementsOf] at dataGiven centersGiven room
          exact .storeMade target writes (congrArg (·.panic?) labelled)
            ⟨labels, .i32, _, _, .nearest points centers target writes features isDim groups
              isClusters dim_pos (Nat.pos_of_ne_zero hp.1) dataWord centersWord dataGiven
              centersGiven room, Nat.le_of_eq length, rfl⟩
      · exact rfl

theorem settles {name : String} {code : Implementation} (hk : (name, code) ∈ all) :
    Settles m (Leaves launch.shape arguments m name)
      ((code launch).run (arguments.map slotOf) 0 m) := by
  simp only [all, List.mem_cons, List.not_mem_nil, or_false, Prod.mk.injEq] at hk
  rcases hk with ⟨rfl, rfl⟩ | ⟨rfl, rfl⟩ | ⟨rfl, rfl⟩
  · exact fill_settles launch arguments m
  · exact axpy_settles launch arguments m
  · exact nearestCentroid_settles launch arguments m

/-- The tables that a labelling reads, by its arguments. -/
structure Reads (data centroids : Centroid.Table Single.Bits) (clusters : Nat) : Prop where
  points : ∃ handle access, arguments[0]? = some (.buffer handle .f32 access) ∧
    data.data.toList = elementsOf m.buffers handle .f32
  centers : ∃ handle access, arguments[1]? = some (.buffer handle .f32 access) ∧
    centroids.data.toList = elementsOf m.buffers handle .f32
  features : ∃ size dim, arguments[3]? = some (.scalar size) ∧ size.get? .u32 = some dim ∧
    data.dim = dim.toNat ∧ centroids.dim = dim.toNat
  groups : ∃ number bits, arguments[4]? = some (.scalar number) ∧ number.get? .u32 = some bits ∧
    clusters = bits.toNat

/-- A labelling that is given what it asks for stores what one pass over the rows makes. -/
theorem run_nearestCentroid {labels : Handle} {rows : Nat} (h : Serves launch.shape arguments
      (countOf m) "nearest_centroid_f32" labels .i32 rows) :
    ∃ data centroids clusters, Reads arguments m data centroids clusters ∧
      Centroid.Ready data centroids clusters rows ∧
      (nearestCentroid launch).run (arguments.map slotOf) 0 m =
        (.ok (), { m with
          buffers := Slot.store m.buffers .i32
            (Centroid.assignRows squared data centroids clusters 0 rows).items
            (.exclusive labels .i32) }) := by
  -- No other kernel has labels for its output.
  generalize "nearest_centroid_f32" = name at h
  cases h with
  | @nearest data a centroids b labels access size dim number clusters points centers target writes
      features isDim groups isClusters dim_pos clusters_pos dataWord centersWord dataGiven
      centersGiven room =>
      rw [← length_elementsOf] at dataGiven centersGiven room
      have notEmpty : ¬(clusters.toNat = 0 ∨ dim.toNat = 0) := by omega
      -- Past the checks, the block size and the labels are all that could still unwind.
      obtain ⟨block, hb⟩ :=
        Blocking.exists_blockSize (rows_lt_limit dim_pos dataWord) .f32 dim.toNat clusters.toNat {}
      have made := ready dim_pos dataWord centersWord dataGiven centersGiven
      refine ⟨_, _, _, ⟨⟨data, a, points, rfl⟩, ⟨centroids, b, centers, rfl⟩,
        ⟨size, dim, features, isDim, rfl, rfl⟩, ⟨number, clusters, groups, isClusters, rfl⟩⟩,
        made, ?_⟩
      rw [nearestCentroid, run_input points, run_input centers, run_output target writes,
        run_scalar features isDim, run_scalar groups isClusters]
      dsimp only
      rw [if_neg notEmpty, Word.mul?_eq_some_iff.mpr ⟨dataWord, rfl⟩,
        Word.mul?_eq_some_iff.mpr ⟨centersWord, rfl⟩]
      dsimp only
      rw [run_ensureLength dataGiven, run_ensureLength centersGiven, run_ensureLength room,
        run_lift hb, run_front room]
      have labelled := labels_made made block
      have quiet := congrArg (·.panic?) (labelled.trans (Centroid.assignRows_all squared made))
      refine (run_storeMade target writes quiet).trans ?_
      exact congrArg (fun made : Centroid.Progress (BitVec 32) => (Outcome.ok (),
        { m with buffers := Slot.store m.buffers .i32 made.items (.exclusive labels .i32) })) labelled

/-- Nothing but what it asks for keeps a builtin kernel from its end. -/
theorem run_of_serves {name : String} {code : Implementation} {out : Handle} {t : ElementType}
    {n : Nat} (hk : (name, code) ∈ all)
    (h : Serves launch.shape arguments (countOf m) name out t n) :
    ((code launch).run (arguments.map slotOf) 0 m).1 = .ok () := by
  have asked := h
  cases h with
  | fill items target writes constant float room =>
      obtain rfl : code = Builtin.fill := by simpa [all] using hk
      rw [← length_elementsOf] at room
      rw [Builtin.fill, run_lift items, run_output target writes, run_scalar constant float,
        run_ensureLength room, run_front room, run_store target writes]
  | axpy items constant float source given target writes room =>
      obtain rfl : code = Builtin.axpy := by simpa [all] using hk
      rw [← length_elementsOf] at given room
      rw [Builtin.axpy, run_lift items, run_scalar constant float, run_input source,
        run_output target writes, run_ensureLength given, run_ensureLength room, run_front room,
        run_front given, run_store target writes]
  | nearest =>
      obtain rfl : code = nearestCentroid := by simpa [all] using hk
      obtain ⟨_, _, _, -, -, hr⟩ := run_nearestCentroid launch arguments m asked
      rw [hr]

end Builtin

/-! ## Launches -/

section Launches

variable {m : Machine carriers} {h out : Handle} {t : ElementType} {n : Nat}

/-- How long a buffer is, and its bytes past the first `count`. -/
def restOf (m : Machine carriers) (h : Handle) (count : Nat) : Option (Nat × List UInt8) :=
  (bytesOf m h).map fun bytes => (bytes.length, bytes.drop count)

theorem bytesOf_acquired (m : Machine carriers) (locks : List LockRequest) (h : Handle) :
    bytesOf { m with buffers := locks.foldl Invocation.acquire m.buffers } h = bytesOf m h := by
  rw [bytesOf_eq, bytesOf_eq, outsideOf_foldl outsideOf_acquire]

theorem countOf_acquired (m : Machine carriers) (locks : List LockRequest) :
    countOf { m with buffers := locks.foldl Invocation.acquire m.buffers } = countOf m :=
  funext fun h => funext fun t => countOf_congr (bytesOf_acquired m locks h) t

theorem bytesOf_released (m : Machine carriers) (locks : List LockRequest) (h : Handle) :
    bytesOf { m with buffers := locks.foldl Invocation.release m.buffers } h = bytesOf m h := by
  rw [bytesOf_eq, bytesOf_eq, outsideOf_foldl outsideOf_release]

theorem bytesOf_stored {values : List t.Bits} (hh : h ≠ out) :
    bytesOf { m with buffers := Slot.store m.buffers t values (.exclusive out t) } h =
      bytesOf m h := by
  simp only [bytesOf, Slot.store, if_true, Store.get?, Store.update, Store.cell?_adjust_ne hh]

theorem restOf_stored {values : List t.Bits} (hv : values.length ≤ n) :
    restOf { m with buffers := Slot.store m.buffers t values (.exclusive out t) } out
      (n * t.size) = restOf m out (n * t.size) := by
  have hf (a : Allocation) :
      ((a.memory.store t values).toList.length,
        (a.memory.store t values).toList.drop (n * t.size)) =
        (a.memory.toList.length, a.memory.toList.drop (n * t.size)) := by
    have hn : (values.take (a.memory.size / t.size)).length * t.size ≤ n * t.size :=
      Nat.mul_le_mul_right _ (Nat.le_trans (List.length_take_le' _ _) hv)
    rw [Memory.drop_store_of_le _ hn, Memory.length_toList, Memory.length_toList]
    rfl
  simp only [restOf, bytesOf, Option.map_map, Slot.store, if_true]
  exact Store.map_get?_update hf m.buffers out out

/-- A launch whose kernel fails without a change changes no buffer, and one that succeeds leaves the
buffers of its kernel. -/
theorem runBound_of_settles {e : Executable} {shape : LaunchShape} {bound : Invocation.Bound}
    {Done : Machine carriers → Prop}
    (hs : Settles (Stage.first e shape bound m).machine Done
      ((Stage.first e shape bound m).run bound.slots)) :
    let launched := runBound e shape bound m
    (∀ f, launched.1 = .error f → ∀ h, bytesOf launched.2 h = bytesOf m h) ∧
    (launched.1 = .ok () → ∃ after, Done after ∧ ∀ h, bytesOf launched.2 h = bytesOf after h) := by
  intro launched
  cases hr : (Stage.first e shape bound m).run bound.slots with
  | mk r after =>
      have hl : launched = (r.contain fun p => .panicked p.report,
          { after with buffers := bound.locks.foldl Invocation.release after.buffers }) :=
        congrArg (fun x : Outcome Fault Unit × Machine carriers =>
          (x.1.contain fun p => Fault.panicked p.report,
            { x.2 with buffers := bound.locks.foldl Invocation.release x.2.buffers })) hr
      have unchanged (he : after = (Stage.first e shape bound m).machine) (h : Handle) :
          bytesOf launched.2 h = bytesOf m h := by
        rw [hl, bytesOf_released, he]
        exact bytesOf_acquired m bound.locks h
      rw [hr] at hs
      cases r with
      | ok value =>
          refine ⟨fun f hf => ?_, fun _ => ⟨after, hs, fun h => ?_⟩⟩
          · rw [hl] at hf
            cases hf
          · rw [hl, bytesOf_released]
      | fault cause =>
          refine ⟨fun _ _ => unchanged hs, fun ho => ?_⟩
          rw [hl] at ho
          cases ho
      | unwound p =>
          refine ⟨fun _ _ => unchanged hs, fun ho => ?_⟩
          rw [hl] at ho
          cases ho

theorem runBound_of_ok {e : Executable} {shape : LaunchShape} {bound : Invocation.Bound}
    (h : ((Stage.first e shape bound m).run bound.slots).1 = .ok ()) :
    (runBound e shape bound m).1 = .ok () :=
  congrArg (Outcome.contain fun p => Fault.panicked p.report) h

end Launches

/-- A launch of a builtin kernel that ends in a fault or a panic leaves the bytes of every buffer as
they were. One that succeeds was given what it asks for, and has changed no more than the first `n`
elements of its output. One that is given what it asks for succeeds if its buffers can be bound. -/
theorem Builtin.all_or_nothing {name : String} {code : Implementation} (hk : (name, code) ∈ all)
    (address : Handle → Nat) (options : BuildOptions) (shape : LaunchShape)
    (arguments : List BoundArgument) (m : Machine carriers) :
    let launched := execute address ⟨name, code, options⟩ shape arguments m
    (∀ f, launched.1 = .error f → ∀ h, bytesOf launched.2 h = bytesOf m h) ∧
    (launched.1 = .ok () → ∃ out t n, Serves shape arguments (countOf m) name out t n ∧
      (∀ h ≠ out, bytesOf launched.2 h = bytesOf m h) ∧
      restOf launched.2 out (n * t.size) = restOf m out (n * t.size)) ∧
    (∀ bound out t n, Invocation.bind address arguments = .ok bound →
      Serves shape arguments (countOf m) name out t n → launched.1 = .ok ()) := by
  intro launched
  cases hb : Invocation.bind address arguments with
  | error fault =>
      have hl : launched = (.error fault, m) := by simp only [launched, execute, hb]
      rw [hl]
      exact ⟨fun _ _ _ => rfl, fun h => (nomatch h), fun _ _ _ _ h => nomatch h⟩
  | ok bound =>
      let first := Stage.first ⟨name, code, options⟩ shape bound m
      have hl : launched = runBound ⟨name, code, options⟩ shape bound m := by
        simp only [launched, execute, hb]
      have hm (h : Handle) : bytesOf first.machine h = bytesOf m h :=
        bytesOf_acquired m bound.locks h
      have hc : countOf first.machine = countOf m := by
        funext h t
        rw [countOf, hm, ← countOf]
      have hs : Settles first.machine (Leaves shape arguments first.machine name)
          (first.run bound.slots) := by
        rw [Invocation.bind_slots hb]
        exact settles _ arguments first.machine hk
      obtain ⟨failed, succeeded⟩ := runBound_of_settles hs
      rw [hl]
      refine ⟨failed, fun ho => ?_, fun _ out t n _ serves => ?_⟩
      · obtain ⟨after, ⟨out, t, n, values, serves, hv, rfl⟩, ha⟩ := succeeded ho
        rw [hc] at serves
        refine ⟨out, t, n, serves, fun h hh => ?_, ?_⟩
        · rw [ha, bytesOf_stored hh, hm]
        · rw [restOf, ha, ← restOf, restOf_stored hv, restOf, hm, ← restOf]
      · rw [← hc] at serves
        apply runBound_of_ok
        rw [Invocation.bind_slots hb]
        exact run_of_serves _ arguments first.machine hk serves

/-- A buffer of six bytes has room for one element, and not for two. -/
theorem Builtin.all_or_nothing_fill :
    let arguments := [BoundArgument.buffer ⟨0⟩ .f32 .write, .scalar ⟨.f32, 0x3F800000⟩]
    let launched := fun n =>
      execute Handle.index ⟨"fill_f32", fill, {}⟩ ⟨1, #v[n, 1, 1], none⟩ arguments sixAndFour
    ("fill_f32", fill) ∈ all ∧
      (launched 2).1.isOk = false ∧ bytesOf (launched 2).2 ⟨0⟩ = some [1, 2, 3, 4, 5, 6] ∧
      (launched 1).1.isOk = true ∧
      ∃ out t n, Serves ⟨1, #v[1, 1, 1], none⟩ arguments (countOf sixAndFour) "fill_f32" out t n ∧
        restOf (launched 1).2 out (n * t.size) = restOf sixAndFour out (n * t.size) := by
  intro arguments launched
  have hk : ("fill_f32", fill) ∈ all := List.mem_cons_self
  have hf : (launched 2).1.isOk = false := by decide +kernel
  obtain ⟨failed, -⟩ :=
    all_or_nothing hk Handle.index {} ⟨1, #v[2, 1, 1], none⟩ arguments sixAndFour
  obtain ⟨-, succeeded, granted⟩ :=
    all_or_nothing hk Handle.index {} ⟨1, #v[1, 1, 1], none⟩ arguments sixAndFour
  have asked : Serves ⟨1, #v[1, 1, 1], none⟩ arguments (countOf sixAndFour) "fill_f32" ⟨0⟩ .f32 1 :=
    .fill rfl rfl rfl rfl rfl (by decide +kernel)
  have ho : (launched 1).1 = .ok () := granted _ _ _ _ rfl asked
  obtain ⟨out, t, n, serves, -, rest⟩ := succeeded ho
  refine ⟨hk, hf, ?_, congrArg Except.isOk ho, out, t, n, serves, rest⟩
  cases hr : (launched 2).1 with
  | ok value => rw [hr] at hf; cases hf
  | error f => exact (failed f hr ⟨0⟩).trans (by decide +kernel)

end Cpu

end Offload
