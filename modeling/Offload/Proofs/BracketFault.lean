import Mathlib.Data.List.Induction
import Offload.Proofs.Nesting

/-!
# Where brackets go wrong

The brackets that are open behind a token list, and the first token that leaves none that could be
closed. Main statement: brackets that do not nest are reported once, on the line of that token, or
else on the line of the innermost bracket that is open at the end.
-/

namespace Offload.Source

/-! ## Statement -/

/-- The grammar of brackets: a text is empty, or a text in a pair of brackets and a text behind. -/
inductive Balanced : List Char → Prop where
  | nil : Balanced []
  | round {inner rest : List Char} :
      Balanced inner → Balanced rest → Balanced ('(' :: (inner ++ ')' :: rest))
  | square {inner rest : List Char} :
      Balanced inner → Balanced rest → Balanced ('[' :: (inner ++ ']' :: rest))
  | curly {inner rest : List Char} :
      Balanced inner → Balanced rest → Balanced ('{' :: (inner ++ '}' :: rest))

/-- The brackets among the tokens. -/
def bracketWord (ts : List (Located Token)) : List Char :=
  ts.filterMap fun t =>
    match t.value with
    | .word _ => none
    | .mark c => if c ∈ ['(', ')', '[', ']', '{', '}'] then some c else none

/-- Brackets that nest can still be reached. -/
def Completable (ts : List (Located Token)) : Prop :=
  ∃ more, Balanced (bracketWord (ts ++ more))

/-- `t` is the first token behind which no brackets that nest can be reached. -/
def FirstFault (ts : List (Located Token)) (t : Located Token) : Prop :=
  ∃ before after, ts = before ++ t :: after ∧ Completable before ∧ ¬Completable (before ++ [t])

/-- `t` opens a bracket that is open at the end, and all that are opened behind it are closed. -/
def InnermostOpen (ts : List (Located Token)) (t : Located Token) : Prop :=
  ∃ before after c, ts = before ++ t :: after ∧ t.value = .mark c ∧ c ∈ ['(', '[', '{'] ∧
    Balanced (bracketWord after)

/-! ## The grammar -/

theorem balanced_iff_nested {marks : List Char} : Balanced marks ↔ Nested marks := by
  constructor
  · intro h
    induction h with
    | nil => exact .nil
    | round _ _ hi hr => exact .pair rfl hi hr
    | square _ _ hi hr => exact .pair rfl hi hr
    | curly _ _ hi hr => exact .pair rfl hi hr
  · intro h
    induction h with
    | nil => exact .nil
    | pair ho _ _ hi hr =>
        unfold opener? at ho
        split at ho <;> cases ho
        · exact .round hi hr
        · exact .square hi hr
        · exact .curly hi hr

theorem isOpener_iff {c : Char} : isOpener c = true ↔ c ∈ ['(', '[', '{'] := by
  simp [isOpener, or_assoc]

theorem opener?_isSome_iff {c : Char} : (opener? c).isSome = true ↔ c ∈ [')', ']', '}'] := by
  unfold opener?
  split <;> simp_all

theorem bracketWord_eq (ts : List (Located Token)) :
    bracketWord ts = brackets (ts.map (·.value)) := by
  unfold bracketWord brackets
  rw [List.filterMap_map]
  congr 1
  funext ⟨line, t⟩
  cases t with
  | word _ => rfl
  | mark c =>
      simp only [Function.comp, bracket?, Bool.or_eq_true, isOpener_iff, opener?_isSome_iff]
      refine if_congr ?_ rfl rfl
      simp only [List.mem_cons, List.not_mem_nil, or_false]
      tauto

theorem bracketWord_append (before after : List (Located Token)) :
    bracketWord (before ++ after) = bracketWord before ++ bracketWord after :=
  List.filterMap_append

theorem bracketWord_other {t : Located Token} {ts : List (Located Token)}
    (h : bracket? t.value = none) : bracketWord (t :: ts) = bracketWord ts := by
  rw [bracketWord_eq, bracketWord_eq, List.map_cons, brackets_other h]

theorem bracketWord_opener {line : Nat} {c : Char} {ts : List (Located Token)}
    (h : isOpener c = true) : bracketWord (⟨line, .mark c⟩ :: ts) = c :: bracketWord ts := by
  rw [bracketWord_eq, bracketWord_eq, List.map_cons, brackets_opener h]

theorem bracketWord_closer {line : Nat} {c opening : Char} {ts : List (Located Token)}
    (h : opener? c = some opening) :
    bracketWord (⟨line, .mark c⟩ :: ts) = c :: bracketWord ts := by
  rw [bracketWord_eq, bracketWord_eq, List.map_cons, brackets_closer h]

theorem bracketProblem?_eq_none_iff {ts : List (Located Token)} :
    bracketProblem? [] ts = none ↔ Balanced (bracketWord ts) := by
  rw [bracketProblem?_nil_iff, bracketWord_eq, balanced_iff_nested]

theorem completable_iff {ts : List (Located Token)} :
    Completable ts ↔ ∃ more, Closes [] (bracketWord ts ++ bracketWord more) := by
  unfold Completable
  refine exists_congr fun more => ?_
  rw [balanced_iff_nested, bracketWord_append]
  constructor
  · exact .nested
  · intro h
    cases h
    assumption

/-- What can be completed can be completed from before. -/
theorem Completable.of_append {before after : List (Located Token)}
    (h : Completable (before ++ after)) : Completable before := by
  obtain ⟨more, hb⟩ := h
  rw [List.append_assoc] at hb
  exact ⟨after ++ more, hb⟩

/-! ## Open brackets -/

/-- The brackets `opened` are open behind the tokens, innermost first. Those between them nest. -/
inductive Open : List (Located Token) → List (Located Char) → Prop where
  | none {ts : List (Located Token)} : Nested (bracketWord ts) → Open ts []
  | bracket {before after : List (Located Token)} {line : Nat} {c : Char}
      {opened : List (Located Char)} : Open before opened → isOpener c = true →
      Nested (bracketWord after) → Open (before ++ ⟨line, .mark c⟩ :: after) (⟨line, c⟩ :: opened)

/-- The token closes a bracket, but not the innermost of `opened`. -/
inductive Misfit : List (Located Char) → Located Token → Problem → Prop where
  | unmatched {line : Nat} {c opening : Char} :
      opener? c = some opening → Misfit [] ⟨line, .mark c⟩ (.unmatched c)
  | mismatched {line : Nat} {c opening : Char} {o : Located Char} {opened : List (Located Char)} :
      opener? c = some opening → o.value ≠ opening →
      Misfit (o :: opened) ⟨line, .mark c⟩ (.mismatched c o.value o.line)

section

variable {ts before after : List (Located Token)} {opened : List (Located Char)}
  {t : Located Token} {p : Problem}

namespace Open

theorem append (h : Open before opened) (hn : Nested (bracketWord after)) :
    Open (before ++ after) opened := by
  cases h with
  | none hb =>
      refine .none ?_
      rw [bracketWord_append]
      exact hb.append hn
  | bracket hb ho ha =>
      rw [List.append_assoc, List.cons_append]
      refine .bracket hb ho ?_
      rw [bracketWord_append]
      exact ha.append hn

/-- The innermost bracket and what stands behind it are a pair with what closes it. -/
theorem close {line : Nat} {c : Char} {o : Located Char} (h : Open before (o :: opened))
    (hc : opener? c = some o.value) : Open (before ++ [⟨line, .mark c⟩]) opened := by
  cases h with
  | @bracket before after line' c' opened hb ho ha =>
      rw [List.append_assoc]
      refine hb.append ?_
      rw [List.cons_append, bracketWord_opener ho, bracketWord_append, bracketWord_closer hc]
      exact .pair hc ha .nil

theorem next (h : Open before opened) (t : Located Token) :
    (∃ opened', Open (before ++ [t]) opened') ∨ ∃ p, Misfit opened t p := by
  obtain ⟨line, t⟩ := t
  rcases token_cases t with hn | ⟨c, rfl, ho⟩ | ⟨c, opening, rfl, hc⟩
  · refine .inl ⟨opened, h.append ?_⟩
    rw [bracketWord_other hn]
    exact .nil
  · exact .inl ⟨_, .bracket h ho .nil⟩
  · cases opened with
    | nil => exact .inr ⟨_, .unmatched hc⟩
    | cons o outer =>
        by_cases hv : o.value = opening
        · subst hv
          exact .inl ⟨outer, h.close hc⟩
        · exact .inr ⟨_, .mismatched hc hv⟩

/-- What completes the tokens is what closes their open brackets. -/
theorem closes_iff (h : Open before opened) {marks : List Char} :
    Closes [] (bracketWord before ++ marks) ↔ Closes (opened.map (·.value)) marks := by
  induction h generalizing marks with
  | none hn => exact Closes.prepend_iff hn
  | bracket _ ho ha ih =>
      rw [bracketWord_append, bracketWord_opener ho, List.append_assoc, ih, List.cons_append,
        Closes.opener_iff ho, Closes.prepend_iff ha]
      rfl

theorem exists_closes (h : Open before opened) :
    ∃ more, Closes (opened.map (·.value)) (bracketWord more) := by
  induction h with
  | none _ => exact ⟨[], .nested .nil⟩
  | @bracket _ _ _ c _ _ ho _ ih =>
      obtain ⟨more, hm⟩ := ih
      obtain ⟨closing, hc⟩ : ∃ closing, opener? closing = some c := by
        have ho := isOpener_iff.mp ho
        simp only [List.mem_cons, List.not_mem_nil, or_false] at ho
        rcases ho with rfl | rfl | rfl
        · exact ⟨')', rfl⟩
        · exact ⟨']', rfl⟩
        · exact ⟨'}', rfl⟩
      refine ⟨⟨0, .mark closing⟩ :: more, ?_⟩
      rw [bracketWord_closer hc]
      exact .close hc .nil hm

theorem completable (h : Open before opened) : Completable before := by
  obtain ⟨more, hm⟩ := h.exists_closes
  exact completable_iff.mpr ⟨more, h.closes_iff.mpr hm⟩

end Open

theorem Misfit.not_closes (h : Misfit opened t p) (marks : List Char) :
    ¬Closes (opened.map (·.value)) (bracketWord [t] ++ marks) := by
  intro hm
  cases h with
  | unmatched hc =>
      rw [bracketWord_closer hc, List.cons_append, Closes.closer_iff hc] at hm
      obtain ⟨outer, h, _⟩ := hm
      cases h
  | mismatched hc hv =>
      rw [bracketWord_closer hc, List.cons_append, Closes.closer_iff hc] at hm
      obtain ⟨outer, h, _⟩ := hm
      exact hv (List.cons.inj h).1

theorem Misfit.not_completable (h : Misfit opened t p) (hb : Open before opened) :
    ¬Completable (before ++ [t]) := by
  intro hc
  obtain ⟨more, hm⟩ := completable_iff.mp hc
  rw [bracketWord_append, List.append_assoc, hb.closes_iff] at hm
  exact h.not_closes _ hm

/-- Brackets are open behind the tokens, or one of them is the first that does not fit. -/
theorem open_or_misfit (ts : List (Located Token)) : (∃ opened, Open ts opened) ∨
    ∃ before t after opened p, ts = before ++ t :: after ∧ Open before opened ∧
      Misfit opened t p := by
  -- Open brackets are known of what was read, so the list grows at its end.
  induction ts using List.reverseRecOn with
  | nil => exact .inl ⟨[], .none .nil⟩
  | append_singleton ts t ih =>
      rcases ih with ⟨opened, ho⟩ | ⟨before, u, after, opened, p, rfl, ho, hm⟩
      · rcases ho.next t with hn | ⟨p, hm⟩
        · exact .inl hn
        · exact .inr ⟨ts, t, [], opened, p, rfl, ho, hm⟩
      · exact .inr ⟨before, u, after ++ [t], opened, p, by simp, ho, hm⟩

theorem Completable.exists_open (h : Completable ts) : ∃ opened, Open ts opened := by
  rcases open_or_misfit ts with ho | ⟨before, t, after, opened, p, rfl, ho, hm⟩
  · exact ho
  · rw [List.append_cons] at h
    exact absurd h.of_append (hm.not_completable ho)

/-! ## The scan -/

/-- The scan forgets brackets that are closed. -/
theorem bracketProblem?_append (inner : List (Located Char)) {rest : List (Located Token)}
    (h : Closes (inner.map (·.value)) (bracketWord ts)) :
    bracketProblem? (inner ++ opened) (ts ++ rest) = bracketProblem? opened rest := by
  -- What is open above `opened` changes on the way, and is closed at the end.
  induction ts generalizing inner with
  | nil =>
      have hi : inner = [] := by simpa using Closes.nil_iff.mp h
      rw [hi]
      rfl
  | cons t ts ih =>
      obtain ⟨line, t⟩ := t
      rw [List.cons_append]
      rcases token_cases t with hn | ⟨c, rfl, ho⟩ | ⟨c, opening, rfl, hc⟩
      · rw [bracketWord_other hn] at h
        rw [bracketProblem?_other hn, ih inner h]
      · rw [bracketWord_opener ho, Closes.opener_iff ho] at h
        rw [bracketProblem?_opener ho]
        exact ih (⟨line, c⟩ :: inner) h
      · rw [bracketWord_closer hc, Closes.closer_iff hc] at h
        obtain ⟨values, hv, h⟩ := h
        obtain ⟨o, inner, rfl, rfl, rfl⟩ := List.map_eq_cons_iff.mp hv
        rw [List.cons_append, bracketProblem?_match hc, ih inner h]

/-- Behind tokens, the scan knows the brackets that they leave open. -/
theorem Open.scan (h : Open before opened) (rest : List (Located Token)) :
    bracketProblem? [] (before ++ rest) = bracketProblem? opened rest := by
  induction h generalizing rest with
  | none hn => exact bracketProblem?_append [] (.nested hn)
  | bracket _ ho ha ih =>
      rw [List.append_assoc, List.cons_append, ih, bracketProblem?_opener ho]
      exact bracketProblem?_append [] (.nested ha)

theorem Misfit.scan (h : Misfit opened t p) (rest : List (Located Token)) :
    bracketProblem? opened (t :: rest) = some ⟨t.line, p⟩ := by
  cases h with
  | unmatched hc => exact bracketProblem?_unmatched hc
  | mismatched hc hv => exact bracketProblem?_mismatch hc hv

/-! ## The place of a problem -/

theorem FirstFault.problem (h : FirstFault ts t) :
    ∃ p, bracketProblem? [] ts = some ⟨t.line, p⟩ := by
  obtain ⟨before, after, rfl, hb, hn⟩ := h
  obtain ⟨opened, ho⟩ := hb.exists_open
  rcases ho.next t with ⟨opened', ho'⟩ | ⟨p, hm⟩
  · exact absurd ho'.completable hn
  · exact ⟨p, by rw [ho.scan, hm.scan]⟩

theorem InnermostOpen.problem (h : InnermostOpen ts t) (hc : Completable ts) :
    ∃ p, bracketProblem? [] ts = some ⟨t.line, p⟩ := by
  obtain ⟨before, after, c, rfl, hv, ho, hb⟩ := h
  obtain ⟨line, _⟩ := t
  subst hv
  obtain ⟨opened, hopen⟩ := hc.of_append.exists_open
  have hlast : Open (before ++ ⟨line, .mark c⟩ :: after) (⟨line, c⟩ :: opened) :=
    .bracket hopen (isOpener_iff.mpr ho) (balanced_iff_nested.mp hb)
  have hs := hlast.scan []
  rw [List.append_nil] at hs
  exact ⟨.neverClosed c, hs⟩

theorem exists_firstFault (h : ¬Completable ts) : ∃ t, FirstFault ts t := by
  rcases open_or_misfit ts with ⟨opened, ho⟩ | ⟨before, t, after, opened, p, rfl, ho, hm⟩
  · exact absurd ho.completable h
  · exact ⟨t, before, after, rfl, ho.completable, hm.not_completable ho⟩

theorem exists_innermostOpen (hc : Completable ts) (hb : ¬Balanced (bracketWord ts)) :
    ∃ t, InnermostOpen ts t := by
  obtain ⟨opened, ho⟩ := hc.exists_open
  cases ho with
  | none hn => exact absurd (balanced_iff_nested.mpr hn) hb
  | @bracket before after line c opened _ ho ha =>
      exact ⟨⟨line, .mark c⟩, before, after, c, rfl, rfl, isOpener_iff.mp ho,
        balanced_iff_nested.mpr ha⟩

end

/-- There is a problem exactly if the brackets do not nest, and it is one. It is on the line of the
first token that leaves nothing to be completed, or without such a token on the line of the innermost
bracket that is open at the end. -/
theorem brackets_reported (ts : List (Located Token)) :
    (bracketProblem? [] ts = none ↔ Balanced (bracketWord ts)) ∧
    (¬Balanced (bracketWord ts) → ∃ d, bracketProblem? [] ts = some d ∧
      (∀ t, FirstFault ts t → d.line = t.line) ∧
      ((∀ t, ¬FirstFault ts t) →
        (∃ t, InnermostOpen ts t) ∧ ∀ t, InnermostOpen ts t → d.line = t.line)) := by
  refine ⟨bracketProblem?_eq_none_iff, fun hb => ?_⟩
  obtain ⟨d, hd⟩ := Option.ne_none_iff_exists'.mp (mt bracketProblem?_eq_none_iff.mp hb)
  have line_eq : ∀ t : Located Token,
      (∃ p, bracketProblem? [] ts = some ⟨t.line, p⟩) → d.line = t.line := by
    rintro t ⟨p, hp⟩
    rw [hd] at hp
    cases hp
    rfl
  refine ⟨d, hd, fun t ht => line_eq t ht.problem, fun hn => ?_⟩
  have hc : Completable ts := by
    by_contra h
    obtain ⟨t, ht⟩ := exists_firstFault h
    exact hn t ht
  exact ⟨exists_innermostOpen hc hb, fun t ht => line_eq t (ht.problem hc)⟩

example : bracketProblem? [] (tokens "kernel void a(\n{ ) }".toList) =
    some ⟨2, .mismatched ')' '{' 2⟩ := by
  decide +kernel

end Offload.Source
