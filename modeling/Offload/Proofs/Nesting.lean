import Offload.Source.Bracket

/-!
# Brackets that nest

A token list is free of bracket problems exactly if its brackets are properly nested.
-/

namespace Offload.Source

/-- Every bracket is paired with one of its kind, and pairs do not cross. -/
inductive Nested : List Char → Prop where
  | nil : Nested []
  | pair {opening closing : Char} {inner rest : List Char} : opener? closing = some opening →
      Nested inner → Nested rest → Nested (opening :: (inner ++ closing :: rest))

/-- What closes the brackets `opened`, innermost first, and opens none for good. -/
inductive Closes : List Char → List Char → Prop where
  | nested {marks : List Char} : Nested marks → Closes [] marks
  | close {opening closing : Char} {opened inner rest : List Char} :
      opener? closing = some opening → Nested inner → Closes opened rest →
      Closes (opening :: opened) (inner ++ closing :: rest)

/-- The bracket that a token is. -/
def bracket? : Token → Option Char
  | .word _ => none
  | .mark c => if isOpener c || (opener? c).isSome then some c else none

def brackets (ts : List Token) : List Char :=
  ts.filterMap bracket?

theorem isOpener_opener {opening closing : Char} (h : opener? closing = some opening) :
    isOpener opening = true := by
  unfold opener? at h
  split at h <;> cases h <;> rfl

theorem opener?_opener {c : Char} (h : isOpener c = true) : opener? c = none := by
  simp only [isOpener, Bool.or_eq_true, beq_iff_eq] at h
  rcases h with (rfl | rfl) | rfl <;> rfl

theorem isOpener_closer {c opening : Char} (h : opener? c = some opening) :
    isOpener c = false := by
  refine Bool.eq_false_iff.mpr fun ho => ?_
  rw [opener?_opener ho] at h
  cases h

theorem Nested.append {front rest : List Char} (hf : Nested front) (hr : Nested rest) :
    Nested (front ++ rest) := by
  induction hf with
  | nil => exact hr
  | pair ho hi _ _ ih =>
      rw [List.cons_append, List.append_assoc]
      exact .pair ho hi ih

/-- The bracket in front opens something, and what it is paired with closes it. -/
theorem Nested.front {c : Char} {rest : List Char} (h : Nested (c :: rest)) :
    ∃ inner closing after, rest = inner ++ closing :: after ∧ opener? closing = some c ∧
      Nested inner ∧ Nested after := by
  cases h with
  | pair ho hi hr => exact ⟨_, _, _, rfl, ho, hi, hr⟩

theorem Nested.isOpener_front {c : Char} {rest : List Char} (h : Nested (c :: rest)) :
    isOpener c = true := by
  obtain ⟨_, _, _, _, ho, _⟩ := h.front
  exact isOpener_opener ho

namespace Closes

variable {c : Char} {opened marks : List Char}

theorem prepend {front : List Char} (hf : Nested front) (h : Closes opened marks) :
    Closes opened (front ++ marks) := by
  cases h with
  | nested hm => exact .nested (hf.append hm)
  | close ho hi hr =>
      rw [← List.append_assoc]
      exact .close ho (hf.append hi) hr

/-- Nothing is left to close, or the innermost bracket is closed by the first that is not paired. -/
theorem split (h : Closes opened marks) : (opened = [] ∧ Nested marks) ∨
    ∃ opening closing outer inner rest, opened = opening :: outer ∧
      marks = inner ++ closing :: rest ∧ opener? closing = some opening ∧ Nested inner ∧
      Closes outer rest := by
  cases h with
  | nested hn => exact .inl ⟨rfl, hn⟩
  | close ho hi hr => exact .inr ⟨_, _, _, _, _, rfl, rfl, ho, hi, hr⟩

theorem nil_iff : Closes opened [] ↔ opened = [] := by
  constructor
  · intro h
    rcases h.split with ⟨rfl, _⟩ | ⟨_, _, _, _, _, _, hm, _⟩
    · rfl
    · simp at hm
  · rintro rfl
    exact .nested .nil

/-- A bracket that opens is one more to close. -/
theorem opener_iff (hc : isOpener c = true) :
    Closes opened (c :: marks) ↔ Closes (c :: opened) marks := by
  constructor
  · intro h
    rcases h.split with ⟨rfl, hn⟩ | ⟨opening, closing, outer, inner, rest, rfl, hm, ho, hi, hr⟩
    · obtain ⟨inner, closing, after, rfl, ho, hi, ha⟩ := hn.front
      exact .close ho hi (.nested ha)
    · cases inner with
      | nil =>
          cases hm
          rw [opener?_opener hc] at ho
          cases ho
      | cons d inner =>
          cases hm
          obtain ⟨inner, closing', after, rfl, ho', hi', ha⟩ := hi.front
          rw [List.append_eq, List.append_assoc]
          exact .close ho' hi' (.close ho ha hr)
  · intro h
    rcases h.split with ⟨ho, _⟩ | ⟨_, closing, _, inner, rest, ho, rfl, hc, hi, hr⟩ <;> cases ho
    have hp : Nested (c :: (inner ++ [closing])) := .pair hc hi .nil
    simpa using hr.prepend hp

/-- A bracket that closes closes the innermost one. -/
theorem closer_iff {opening : Char} (hc : opener? c = some opening) :
    Closes opened (c :: marks) ↔ ∃ outer, opened = opening :: outer ∧ Closes outer marks := by
  have hno : isOpener c = false := isOpener_closer hc
  constructor
  · intro h
    rcases h.split with ⟨_, hn⟩ | ⟨_, closing, outer, inner, rest, rfl, hm, ho, hi, hr⟩
    · rw [hn.isOpener_front] at hno
      cases hno
    · cases inner with
      | nil =>
          cases hm
          cases hc.symm.trans ho
          exact ⟨outer, rfl, hr⟩
      | cons d inner =>
          cases hm
          rw [hi.isOpener_front] at hno
          cases hno
  · rintro ⟨outer, rfl, h⟩
    exact .close hc .nil h

/-- Brackets that nest close nothing. -/
theorem prepend_iff {front : List Char} (hf : Nested front) :
    Closes opened (front ++ marks) ↔ Closes opened marks := by
  induction hf generalizing opened marks with
  | nil => exact Iff.rfl
  | @pair opening closing inner rest ho _ _ hi hr =>
      rw [List.cons_append, List.append_assoc, List.cons_append,
        opener_iff (isOpener_opener ho), hi, closer_iff ho]
      constructor
      · rintro ⟨outer, h, hc⟩
        cases h
        exact hr.mp hc
      · exact fun hc => ⟨opened, rfl, hr.mpr hc⟩

end Closes

/-- A token is no bracket, opens one or closes one. -/
theorem token_cases (t : Token) : bracket? t = none ∨ (∃ c, t = .mark c ∧ isOpener c = true) ∨
    ∃ c opening, t = .mark c ∧ opener? c = some opening := by
  cases t with
  | word _ => exact .inl rfl
  | mark c =>
      cases ho : isOpener c with
      | true => exact .inr (.inl ⟨c, rfl, ho⟩)
      | false =>
          cases hc : opener? c with
          | none => exact .inl (by simp [bracket?, ho, hc])
          | some opening => exact .inr (.inr ⟨c, opening, rfl, hc⟩)

section

variable {line : Nat} {c opening : Char} {t : Located Token} {rest : List (Located Token)}
  {o : Located Char} {opened outer : List (Located Char)}

theorem bracketProblem?_other (h : bracket? t.value = none) :
    bracketProblem? opened (t :: rest) = bracketProblem? opened rest := by
  obtain ⟨line, word | c⟩ := t
  · rfl
  · have h : ¬(isOpener c = true ∨ (opener? c).isSome = true) := by simpa [bracket?] using h
    have hc : opener? c = none := by simpa using fun hs => h (.inr hs)
    rw [bracketProblem?, if_neg fun ho => h (.inl ho), hc]

theorem bracketProblem?_opener (h : isOpener c = true) :
    bracketProblem? opened (⟨line, .mark c⟩ :: rest) =
      bracketProblem? (⟨line, c⟩ :: opened) rest := by
  rw [bracketProblem?, if_pos h]

theorem bracketProblem?_unmatched (h : opener? c = some opening) :
    bracketProblem? [] (⟨line, .mark c⟩ :: rest) = some ⟨line, .unmatched c⟩ := by
  rw [bracketProblem?, if_neg (by simp [isOpener_closer h]), h]

theorem bracketProblem?_match (h : opener? c = some o.value) :
    bracketProblem? (o :: outer) (⟨line, .mark c⟩ :: rest) = bracketProblem? outer rest := by
  rw [bracketProblem?, if_neg (by simp [isOpener_closer h]), h]
  exact if_pos rfl

theorem bracketProblem?_mismatch (h : opener? c = some opening) (ho : o.value ≠ opening) :
    bracketProblem? (o :: outer) (⟨line, .mark c⟩ :: rest) =
      some ⟨line, .mismatched c o.value o.line⟩ := by
  rw [bracketProblem?, if_neg (by simp [isOpener_closer h]), h]
  exact if_neg ho

end

theorem brackets_other {t : Token} {ts : List Token} (h : bracket? t = none) :
    brackets (t :: ts) = brackets ts :=
  List.filterMap_cons_none h

theorem brackets_opener {c : Char} {ts : List Token} (h : isOpener c = true) :
    brackets (.mark c :: ts) = c :: brackets ts :=
  List.filterMap_cons_some (by simp [bracket?, h])

theorem brackets_closer {c opening : Char} {ts : List Token} (h : opener? c = some opening) :
    brackets (.mark c :: ts) = c :: brackets ts :=
  List.filterMap_cons_some (by simp [bracket?, h])

/-- A token list has no bracket problem inside open brackets exactly if it closes them. -/
theorem bracketProblem?_iff {opened : List (Located Char)} {ts : List (Located Token)} :
    bracketProblem? opened ts = none ↔
      Closes (opened.map (·.value)) (brackets (ts.map (·.value))) := by
  induction ts generalizing opened with
  | nil => simp [bracketProblem?, brackets, Closes.nil_iff]
  | cons t rest ih =>
      obtain ⟨line, t⟩ := t
      rw [List.map_cons]
      rcases token_cases t with h | ⟨c, rfl, h⟩ | ⟨c, opening, rfl, h⟩
      · rw [bracketProblem?_other h, brackets_other h, ih]
      · rw [bracketProblem?_opener h, brackets_opener h, Closes.opener_iff h, ih]
        rfl
      · rw [brackets_closer h, Closes.closer_iff h]
        cases opened with
        | nil => simp [bracketProblem?_unmatched h]
        | cons o outer =>
            by_cases ho : o.value = opening
            · subst ho
              simp [bracketProblem?_match h, ih]
            · simp [bracketProblem?_mismatch h ho, ho]

/-- The brackets of a whole token list have no problem exactly if they nest. -/
theorem bracketProblem?_nil_iff {ts : List (Located Token)} :
    bracketProblem? [] ts = none ↔ Nested (brackets (ts.map (·.value))) := by
  rw [bracketProblem?_iff]
  constructor
  · intro h
    cases h
    assumption
  · exact .nested

end Offload.Source
