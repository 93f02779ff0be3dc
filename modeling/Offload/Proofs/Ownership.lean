import Offload.Proofs.Counting

/-!
# Who owns references

At every point the count of a handle is the number of places that hold it, plus the number of
references that the caller of the places owns. Commands move references between the two and change
the count where they make one or give one back.
-/

namespace Offload

variable {σ η : Type} [DecidableEq η]

/-! ## Places that hold a handle -/

namespace Places

def holdersIn (entries : List (String × Reference η)) (raw : η) : Nat :=
  entries.countP fun entry => entry.2.raw? = some raw

/-- Places that hold `raw`. -/
def holders (p : Places η) (raw : η) : Nat := holdersIn p.entries raw

/-- References to `raw` at a place that may not be there. -/
def heldAt (r? : Option (Reference η)) (raw : η) : Nat := r?.elim 0 (·.holds raw)

variable {entries : List (String × Reference η)} {entry : String × Reference η} {name other : String}
  {r old : Reference η} {p : Places η} {k : η}

theorem holdersIn_cons : holdersIn (entry :: entries) k = entry.2.holds k + holdersIn entries k := by
  simp only [holdersIn, List.countP_cons, Reference.holds, decide_eq_true_eq]
  omega

omit [DecidableEq η] in
theorem lookup_of_lt (h : ∀ e ∈ entries, name < e.1) : entries.lookup name = none := by
  refine List.lookup_eq_none_iff.mpr fun e he => ?_
  have hne : name ≠ e.1 := fun hn => String.lt_irrefl name (by simpa [← hn] using h e he)
  simpa using hne

theorem holdersIn_setEntry (h : entries.Pairwise (·.1 < ·.1)) (name : String) (r : Reference η)
    (k : η) :
    holdersIn (setEntry name r entries) k + heldAt (entries.lookup name) k =
      r.holds k + holdersIn entries k := by
  induction entries with
  | nil => exact holdersIn_cons
  | cons e rest ih =>
      obtain ⟨key, x⟩ := e
      obtain ⟨hlt, hrest⟩ := List.pairwise_cons.mp h
      simp only [setEntry]
      split
      · next hn =>
          subst hn
          rw [lookup_cons, if_pos rfl, holdersIn_cons, holdersIn_cons]
          simp only [heldAt, Option.elim_some]
          omega
      split
      · next hn =>
          have hno : List.lookup name ((key, x) :: rest) = none :=
            lookup_of_lt fun e he => by
              rcases List.mem_cons.mp he with rfl | he
              · exact hn
              · exact String.lt_trans hn (hlt e he)
          rw [hno, holdersIn_cons]
          rfl
      · next hne _ =>
          rw [lookup_cons, if_neg hne, holdersIn_cons, holdersIn_cons]
          have := ih hrest
          omega

theorem holdersIn_filter (h : entries.Pairwise (·.1 < ·.1)) (name : String) (k : η) :
    holdersIn (entries.filter fun entry => entry.1 != name) k + heldAt (entries.lookup name) k =
      holdersIn entries k := by
  induction entries with
  | nil => rfl
  | cons e rest ih =>
      obtain ⟨key, x⟩ := e
      obtain ⟨hlt, hrest⟩ := List.pairwise_cons.mp h
      by_cases hn : name = key
      · subst hn
        have hr : rest.filter (fun entry => entry.1 != name) = rest :=
          List.filter_eq_self.mpr fun e he => by
            have hne : e.1 ≠ name := fun hn => String.lt_irrefl e.1 (by simpa [hn] using hlt e he)
            simpa using hne
        rw [List.filter_cons_of_neg (by simp), hr, lookup_cons, if_pos rfl, holdersIn_cons]
        simp only [heldAt, Option.elim_some]
        omega
      · rw [List.filter_cons_of_pos (by simpa using Ne.symm hn), lookup_cons, if_neg hn,
          holdersIn_cons, holdersIn_cons]
        have := ih hrest
        omega

theorem holders_set (p : Places η) (name : String) (r : Reference η) (k : η) :
    (p.set name r).holders k + heldAt (p.find? name) k = r.holds k + p.holders k :=
  holdersIn_setEntry p.ordered name r k

theorem holds_le_holders (h : p.find? name = some old) (k : η) : old.holds k ≤ p.holders k := by
  have := holdersIn_filter p.ordered name k
  rw [show p.entries.lookup name = some old from h] at this
  simp only [heldAt, Option.elim_some] at this
  show _ ≤ holdersIn p.entries k
  omega

omit [DecidableEq η] in
theorem lookup_setEntry :
    (setEntry name r entries).lookup other =
      if other = name then some r else entries.lookup other := by
  induction entries with
  | nil => exact lookup_cons name other r []
  | cons e rest ih =>
      obtain ⟨key, x⟩ := e
      simp only [setEntry]
      split
      · next hn => rw [lookup_cons, lookup_cons, ← hn]; split <;> rfl
      split
      · exact lookup_cons name other r _
      · next hne _ =>
          rw [lookup_cons, lookup_cons, ih]
          by_cases ho : other = key
          · rw [if_pos ho, if_pos ho, if_neg (ho ▸ Ne.symm hne)]
          · rw [if_neg ho, if_neg ho]

omit [DecidableEq η] in
theorem find?_set (p : Places η) (name other : String) (r : Reference η) :
    (p.set name r).find? other = if other = name then some r else p.find? other :=
  lookup_setEntry

end Places

/-! ## Commands -/

namespace Places

variable {h : HandleKind σ η} {P : σ → (η → Nat) → Prop} {s : σ} {n : η → Nat} {name : String}
  {r : Reference η} {p : Places η}

/-- A reference that is put somewhere is held there. What it takes the place of is given back. -/
theorem put_tracked (t : Tracks h P) (hp : P s fun k => r.holds k + p.holders k + n k) :
    P (p.put h name r s).2 fun k => (p.put h name r s).1.holders k + n k := by
  have hs := p.holders_set name r
  unfold put
  cases hf : p.find? name with
  | none =>
      rw [hf] at hs
      exact of_counts hp fun k => by rw [← hs k]; rfl
  | some old =>
      rw [hf] at hs
      refine t.drop (of_counts hp fun k => ?_)
      have := hs k
      simp only [heldAt, Option.elim_some] at this
      simp only
      omega

theorem remove_tracked (t : Tracks h P) (hp : P s fun k => p.holders k + n k) :
    P (p.remove h name s).2 fun k => (p.remove h name s).1.holders k + n k := by
  unfold remove
  cases hf : p.find? name with
  | none => exact hp
  | some old =>
      refine t.drop (of_counts hp fun k => ?_)
      have := holdersIn_filter p.ordered name k
      rw [show p.entries.lookup name = some old from hf] at this
      simp only [heldAt, Option.elim_some] at this
      simp only [holders]
      omega

theorem removeAll_tracked (t : Tracks h P) (hp : P s fun k => p.holders k + n k) :
    P (p.removeAll h s) n := by
  obtain ⟨entries, ordered⟩ := p
  simp only [removeAll, holders] at hp ⊢
  clear ordered
  induction entries generalizing s with
  | nil => exact of_counts hp fun k => Nat.zero_add _
  | cons e rest ih =>
      refine ih (t.drop (r := e.2) (of_counts hp fun k => ?_))
      rw [holdersIn_cons]
      omega

end Places

/-- References that the caller hands over with a command. -/
def PlaceCommand.handed : PlaceCommand η → List η
  | .adopt _ raw => [raw]
  | .reset _ raw? => raw?.toList
  | _ => []

/-- References that the caller gets. -/
def PlaceResult.given : PlaceResult η → List η
  | .handle raw? => raw?.toList
  | _ => []

theorem count_cons (raw k : η) (owned : List η) :
    (raw :: owned).count k = owned.count k + if k = raw then 1 else 0 := by
  rw [List.count_cons]
  by_cases hk : k = raw
  · simp [hk]
  · simp [hk, Ne.symm hk]

theorem count_toList (raw? : Option η) (k : η) :
    raw?.toList.count k = (⟨raw?⟩ : Reference η).holds k := by
  cases raw? with
  | none => rfl
  | some raw => simp [Reference.holds, List.count_singleton]

namespace Places

variable {h : HandleKind σ η} {P : σ → (η → Nat) → Prop} {s s' : σ} {n : η → Nat}
  {p p' : Places η} {x : PlaceCommand η} {result : PlaceResult η}

/-- A command moves, makes and gives back references, but loses none. -/
theorem step_tracked (t : Tracks h P) (hp : P s fun k => p.holders k + x.handed.count k + n k)
    (done : p.step h s x = some (result, p', s')) :
    P s' fun k => p'.holders k + result.given.count k + n k := by
  have hnull (k : η) : (Reference.null : Reference η).holds k = 0 := rfl
  cases x with
  | empty place =>
      cases done
      exact put_tracked t (of_counts hp fun k => by rw [hnull, Nat.zero_add]; rfl)
  | adopt place raw =>
      cases done
      refine put_tracked t (of_counts hp fun k => ?_)
      have : (PlaceCommand.adopt place raw).handed.count k = (Reference.ofRaw raw).holds k :=
        count_toList (some raw) k
      omega
  | clone place source =>
      obtain ⟨r, hr, done⟩ := Option.bind_eq_some_iff.mp done
      cases done
      have hc := t.clone (r := r) hp fun k => by have := holds_le_holders hr k; omega
      refine put_tracked t (r := (r.clone h s).1) (of_counts hc fun k => ?_)
      have : (PlaceCommand.clone place source : PlaceCommand η).handed.count k = 0 := rfl
      rw [Reference.clone_fst]
      omega
  | take place source =>
      obtain ⟨r, hr, done⟩ := Option.bind_eq_some_iff.mp done
      cases done
      refine put_tracked t (r := r) (of_counts hp fun k => ?_)
      have hs := p.holders_set source .null k
      have : (PlaceCommand.take place source : PlaceCommand η).handed.count k = 0 := rfl
      rw [hr, heldAt, Option.elim_some, hnull] at hs
      show _ = r.holds k + (p.set source .null).holders k + n k
      omega
  | swap place other =>
      obtain ⟨r, hr, done⟩ := Option.bind_eq_some_iff.mp done
      obtain ⟨r', hr', done⟩ := Option.bind_eq_some_iff.mp done
      cases done
      refine of_counts hp fun k => ?_
      have hs := p.holders_set place r' k
      have ht := (p.set place r').holders_set other r k
      -- Where both places are one, both references are the same.
      have ho : (p.set place r').find? other = some r' := by
        rw [find?_set, hr']
        split <;> rfl
      rw [hr] at hs
      rw [ho] at ht
      simp only [heldAt, Option.elim_some] at hs ht
      show _ = ((p.set place r').set other r).holders k + 0 + n k
      have : (PlaceCommand.swap place other : PlaceCommand η).handed.count k = 0 := rfl
      omega
  | reset place raw? =>
      obtain ⟨r, hr, done⟩ := Option.bind_eq_some_iff.mp done
      cases done
      refine t.drop (r := r) (of_counts hp fun k => ?_)
      have hs := p.holders_set place ⟨raw?⟩ k
      have : (PlaceCommand.reset place raw?).handed.count k = (⟨raw?⟩ : Reference η).holds k :=
        count_toList raw? k
      rw [hr, heldAt, Option.elim_some] at hs
      show _ = (p.set place ⟨raw?⟩).holders k + 0 + n k + r.holds k
      omega
  | release place =>
      obtain ⟨r, hr, done⟩ := Option.bind_eq_some_iff.mp done
      cases done
      refine of_counts hp fun k => ?_
      have hs := p.holders_set place .null k
      have : (PlaceCommand.release place : PlaceCommand η).handed.count k = 0 := rfl
      have hg : (PlaceResult.handle r.raw?).given.count k = r.holds k := count_toList r.raw? k
      rw [hr, heldAt, Option.elim_some, hnull] at hs
      show _ = (p.set place .null).holders k + (PlaceResult.handle r.raw?).given.count k + n k
      omega
  | share place =>
      obtain ⟨r, hr, done⟩ := Option.bind_eq_some_iff.mp done
      cases done
      have hc := t.clone (r := r) hp fun k => by have := holds_le_holders hr k; omega
      refine of_counts hc fun k => ?_
      have : (PlaceCommand.share place : PlaceCommand η).handed.count k = 0 := rfl
      have hg : (PlaceResult.handle (r.clone h s).1.raw?).given.count k = r.holds k := by
        rw [Reference.clone_fst]
        exact count_toList r.raw? k
      show _ = p.holders k + (PlaceResult.handle (r.clone h s).1.raw?).given.count k + n k
      omega
  | drop place =>
      cases done
      exact remove_tracked t hp
  | inspect place =>
      obtain ⟨r, hr, done⟩ := Option.bind_eq_some_iff.mp done
      cases done
      exact hp

end Places

/-! ## Views of a native side -/

/-- What `view` shows of a native side is counted as `k` counts it. -/
structure HandleKind.Views {σ' : Type} (k' : HandleKind σ' η) (k : HandleKind σ η) (view : σ' → σ) :
    Prop where
  name : k'.name = k.name
  retain : ∀ raw s, ((k'.retain raw s).1, view (k'.retain raw s).2) = k.retain raw (view s)
  release : ∀ raw s, ((k'.release raw s).1, view (k'.release raw s).2) = k.release raw (view s)

namespace HandleKind.Views

variable {σ' : Type} {k' : HandleKind σ' η} {k : HandleKind σ η} {view : σ' → σ}

omit [DecidableEq η]

theorem drop (v : k'.Views k view) (r : Reference η) (s : σ') :
    view (r.drop k' s) = r.drop k (view s) := by
  unfold Reference.drop
  cases r.raw? with
  | none => rfl
  | some raw => exact congrArg Prod.snd (v.release raw s)

theorem clone (v : k'.Views k view) (r : Reference η) (s : σ') :
    ((r.clone k' s).1, view (r.clone k' s).2) = r.clone k (view s) := by
  unfold Reference.clone
  cases r.raw? with
  | none => rfl
  | some raw => exact congrArg (Prod.mk r ·.2) (v.retain raw s)

theorem put (v : k'.Views k view) (p : Places η) (name : String) (r : Reference η) (s : σ') :
    ((p.put k' name r s).1, view (p.put k' name r s).2) = p.put k name r (view s) := by
  unfold Places.put
  cases p.find? name with
  | none => rfl
  | some old => exact Prod.ext rfl (v.drop old s)

theorem remove (v : k'.Views k view) (p : Places η) (name : String) (s : σ') :
    ((p.remove k' name s).1, view (p.remove k' name s).2) = p.remove k name (view s) := by
  unfold Places.remove
  cases p.find? name with
  | none => rfl
  | some old => exact Prod.ext rfl (v.drop old s)

theorem removeAll (v : k'.Views k view) (p : Places η) (s : σ') :
    view (p.removeAll k' s) = p.removeAll k (view s) := by
  unfold Places.removeAll
  induction p.entries generalizing s with
  | nil => rfl
  | cons e rest ih => rw [List.foldl_cons, List.foldl_cons, ih, v.drop]

/-- Commands do to what is shown what they would do to it by itself. -/
theorem step (v : k'.Views k view) (p : Places η) (s : σ') (x : PlaceCommand η) :
    (p.step k' s x).map (fun y => (y.1, y.2.1, view y.2.2)) = p.step k (view s) x := by
  have hput (p : Places η) (s : σ') (r : Reference η) (name : String) :=
    congrArg (fun y => some (PlaceResult.nothing (η := η), y)) (v.put p name r s)
  cases x with
  | empty place => exact hput p s .null place
  | adopt place raw => exact hput p s (.ofRaw raw) place
  | drop place => exact congrArg (fun y => some (PlaceResult.nothing, y)) (v.remove p place s)
  | clone place source =>
      cases hr : p.find? source with
      | none => simp only [Places.step, hr]; rfl
      | some r =>
          simp only [Places.step, hr]
          refine (hput p (r.clone k' s).2 (r.clone k' s).1 place).trans ?_
          exact congrArg (fun y => some (PlaceResult.nothing, p.put k place y.1 y.2)) (v.clone r s)
  | take place source =>
      cases hr : p.find? source with
      | none => simp only [Places.step, hr]; rfl
      | some r =>
          simp only [Places.step, hr]
          exact hput (p.set source .null) s r place
  | swap place other =>
      cases hr : p.find? place with
      | none => simp only [Places.step, hr]; rfl
      | some r =>
          cases hr' : p.find? other with
          | none => simp only [Places.step, hr, hr']; rfl
          | some r' => simp only [Places.step, hr, hr']; rfl
  | reset place raw? =>
      cases hr : p.find? place with
      | none => simp only [Places.step, hr]; rfl
      | some r =>
          simp only [Places.step, hr]
          exact congrArg (fun y => some (PlaceResult.nothing, p.set place ⟨raw?⟩, y)) (v.drop r s)
  | release place =>
      cases hr : p.find? place with
      | none => simp only [Places.step, hr]; rfl
      | some r => simp only [Places.step, hr]; rfl
  | share place =>
      cases hr : p.find? place with
      | none => simp only [Places.step, hr]; rfl
      | some r =>
          simp only [Places.step, hr]
          exact congrArg (fun y => some (PlaceResult.handle y.1.raw?, p, y.2)) (v.clone r s)
  | inspect place =>
      cases hr : p.find? place with
      | none => simp only [Places.step, hr]; rfl
      | some r =>
          simp only [Places.step, hr, Reference.inspect, v.name]
          rfl

end HandleKind.Views

theorem Counting.observed_views (c : Counting σ η) : c.observed.Views c.kind Observed.native where
  name := rfl
  retain _ _ := rfl
  release _ _ := rfl

theorem Places.removeAll_observed (c : Counting σ η) (o : Observed σ η) (p : Places η) :
    (p.removeAll c.observed o).native = p.removeAll c.kind o.native :=
  c.observed_views.removeAll p o

/-! ## Runs -/

/-- Places with their native side, and the references of their caller. -/
structure Scene (σ η : Type) where
  places : Places η := {}
  side : Observed σ η
  owned : List η := []

/-- The caller makes handles, retains those that are alive, and releases or hands over what it
owns. -/
inductive Step (c : Counting σ η) : Scene σ η → Scene σ η → Prop where
  | create {s : Scene σ η} (raw : η) (native : σ) (gone : c.count? s.side.native raw = none)
      (made : ∀ k, c.count? native k = if k = raw then some 1 else c.count? s.side.native k) :
      Step c s { s with side := { s.side with native }, owned := raw :: s.owned }
  | retain {s : Scene σ η} (raw : η) (alive : (c.count? s.side.native raw).isSome) :
      Step c s { s with side := (c.observed.retain raw s.side).2, owned := raw :: s.owned }
  | release {s : Scene σ η} (raw : η) (rest : List η) (owns : s.owned.Perm (raw :: rest)) :
      Step c s { s with side := (c.observed.release raw s.side).2, owned := rest }
  | command {s : Scene σ η} {result : PlaceResult η} {places : Places η} {side : Observed σ η}
      (x : PlaceCommand η) (rest : List η) (owns : s.owned.Perm (x.handed ++ rest))
      (done : s.places.step c.observed s.side x = some (result, places, side)) :
      Step c s ⟨places, side, result.given ++ rest⟩

/-- What finitely many steps lead to. -/
inductive Runs (c : Counting σ η) (start : σ) : Scene σ η → Prop where
  | start : Runs c start { side := { native := start } }
  | step {s s' : Scene σ η} (run : Runs c start s) (next : Step c s s') : Runs c start s'

/-- Each count is accounted for by places and caller. -/
def Scene.Balanced (c : Counting σ η) (s : Scene σ η) : Prop :=
  Backed c s.side fun k => s.places.holders k + s.owned.count k

variable {c : Counting σ η} {s s' : Scene σ η}

theorem Step.balanced (h : s.Balanced c) (next : Step c s s') : s'.Balanced c := by
  cases next with
  | create raw native gone made =>
      refine ⟨fun k => ?_, h.alive⟩
      have hraw := h.count raw
      rw [gone, countOf] at hraw
      split at hraw
      · next hzero =>
          show c.count? native k = countOf (s.places.holders k + (raw :: s.owned).count k)
          rw [made]
          split
          · next hk =>
              rw [count_cons, if_pos hk, hk, ← Nat.add_assoc, hzero]
              rfl
          · next hk => rw [count_cons, if_neg hk]; exact h.count k
      · cases hraw
  | retain raw alive =>
      have hn : 0 < s.places.holders raw + s.owned.count raw := by
        refine Nat.pos_of_ne_zero fun hz => ?_
        rw [h.count, hz] at alive
        cases alive
      refine (h.retain hn).congr fun k => ?_
      simp only [count_cons, Nat.add_assoc]
  | release raw rest owns =>
      refine Backed.release (h.congr fun k => ?_)
      simp only [owns.count_eq, count_cons, Nat.add_assoc]
  | command x rest owns done =>
      have hb := h.congr (m := fun k => s.places.holders k + x.handed.count k + rest.count k)
        fun k => by simp only [owns.count_eq, List.count_append, Nat.add_assoc]
      refine (Places.step_tracked Backed.tracks hb done).congr fun k => ?_
      simp only [List.count_append, Nat.add_assoc]

theorem Places.removeAll_backed {p : Places η} {o : Observed σ η} {n : η → Nat}
    (h : Backed c o fun k => p.holders k + n k) : Backed c (p.removeAll c.observed o) n :=
  removeAll_tracked Backed.tracks h

theorem Runs.balanced {start : σ} (hs : ∀ raw, c.count? start raw = none) (run : Runs c start s) :
    s.Balanced c := by
  induction run with
  | start => exact ⟨hs, fun call hc => absurd hc List.not_mem_nil⟩
  | step run next ih => exact next.balanced ih

/-- At every point, the count of a handle is the number of places that hold it plus the number of
references that the caller owns; a handle without any is gone. No call is about a handle that is
gone. Once the places are dropped, only the references of the caller are left. -/
theorem references_balanced (c : Counting σ η) {start : σ} (hs : ∀ raw, c.count? start raw = none)
    {s : Scene σ η} (run : Runs c start s) :
    (∀ raw, c.count? s.side.native raw = countOf (s.places.holders raw + s.owned.count raw)) ∧
    (∀ call ∈ s.side.calls, call.alive = true) ∧
    (∀ call ∈ (s.places.removeAll c.observed s.side).calls, call.alive = true) ∧
    ∀ raw, c.count? (s.places.removeAll c.kind s.side.native) raw =
      countOf (s.owned.count raw) := by
  have h := run.balanced hs
  have hd := Places.removeAll_backed h
  refine ⟨h.count, h.alive, hd.alive, fun raw => ?_⟩
  rw [← Places.removeAll_observed]
  exact hd.count raw

/-- Two places of one handle, one of them reset to what it holds, swapped and moved, beside a handle
that is shared with the caller. -/
theorem references_balanced_shuffled :
    ∃ s, Runs (HandleTable.counting "fake") ({} : HandleTable Nat) s ∧ s.owned = [1, 2] ∧
      s.side.native.count? 1 = some 2 ∧ s.side.native.count? 2 = some 2 ∧
      (s.places.removeAll (HandleTable.kind "fake") s.side.native).count? 1 = some 1 := by
  have balanced (s : Scene (HandleTable Nat) Nat) (run : Runs (HandleTable.counting "fake") {} s) :
      (∀ raw, s.side.native.count? raw = countOf (s.places.holders raw + s.owned.count raw)) ∧
        ∀ raw, (s.places.removeAll (HandleTable.kind "fake") s.side.native).count? raw =
          countOf (s.owned.count raw) := by
    obtain ⟨counts, -, -, last⟩ := references_balanced _ (fun _ => rfl) run
    exact ⟨counts, last⟩
  let one : HandleTable Nat := HandleTable.set {} 1 1
  let two : HandleTable Nat := one.set 2 1
  have first : Runs (HandleTable.counting "fake") {} ⟨{}, ⟨one, []⟩, [1]⟩ :=
    Runs.start.step (.create 1 one rfl (HandleTable.count?_set {} 1 · 1))
  have second : Runs (HandleTable.counting "fake") {} ⟨{}, ⟨two, []⟩, [2, 1]⟩ :=
    first.step (.create 2 two rfl (HandleTable.count?_set one 2 · 1))
  have adopted := second.step (.command (.adopt "a" 1) [2] (.swap ..) rfl)
  have cloned := adopted.step (.command (.clone "b" "a") [2] (.refl _) rfl)
  have retained := cloned.step (.retain 1 rfl)
  have reset := retained.step (.command (.reset "a" (some 1)) [2] (.refl _) rfl)
  have swapped := reset.step (.command (.swap "a" "b") [2] (.refl _) rfl)
  have taken := swapped.step (.command (.take "c" "a") [2] (.refl _) rfl)
  have filled := taken.step (.command (.adopt "a" 2) [] (.refl _) rfl)
  have shared := filled.step (.command (.share "a") [] (.refl _) rfl)
  have released := shared.step (.command (.release "b") [2] (.refl _) rfl)
  refine ⟨_, released, by decide +kernel, ?_, ?_, ?_⟩
  · exact ((balanced _ released).1 1).trans (by decide +kernel)
  · exact ((balanced _ released).1 2).trans (by decide +kernel)
  · exact ((balanced _ released).2 1).trans (by decide +kernel)

end Offload
