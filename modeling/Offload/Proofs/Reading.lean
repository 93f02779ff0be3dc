import Offload.Proofs.Linking
import Offload.Source.Comment

/-!
# Reading source texts

What is left of a text without its comments, and the tokens of what is left, as a reader of the text
would say it: without a scan, its states and its lines.
-/

namespace Offload.Source

/-! ## Comments -/

/-- A text that begins with a comment, closed or not. -/
def OpensComment (text : List Char) : Prop :=
  ∃ rest, text = '/' :: '/' :: rest ∨ text = '/' :: '*' :: rest

/-- A text without the end of a comment in brackets. -/
def NeverCloses (text : List Char) : Prop :=
  ¬['*', '/'] <:+: text

/-- Every comment of the text is closed, and without its comments it is `plain`. -/
inductive Uncomments : List Char → List Char → Prop where
  | nil : Uncomments [] []
  | char {c : Char} {rest plain : List Char} :
      ¬OpensComment (c :: rest) → Uncomments rest plain → Uncomments (c :: rest) (c :: plain)
  | line {body rest plain : List Char} : '\n' ∉ body → Uncomments rest plain →
      Uncomments ('/' :: '/' :: (body ++ '\n' :: rest)) ('\n' :: plain)
  | lastLine {body : List Char} : '\n' ∉ body → Uncomments ('/' :: '/' :: body) []
  | block {body rest plain : List Char} : NeverCloses body → Uncomments rest plain →
      Uncomments ('/' :: '*' :: (body ++ '*' :: '/' :: rest))
        (body.filter (· = '\n') ++ ' ' :: plain)

/-- In front of `rest`, the text `front` ends outside of comments. Without its comments it is
`plain`. -/
inductive UncommentsBefore (rest : List Char) : List Char → List Char → Prop where
  | nil : UncommentsBefore rest [] []
  | char {c : Char} {front plain : List Char} : ¬OpensComment (c :: (front ++ rest)) →
      UncommentsBefore rest front plain → UncommentsBefore rest (c :: front) (c :: plain)
  | line {body front plain : List Char} : '\n' ∉ body → UncommentsBefore rest front plain →
      UncommentsBefore rest ('/' :: '/' :: (body ++ '\n' :: front)) ('\n' :: plain)
  | block {body front plain : List Char} : NeverCloses body → UncommentsBefore rest front plain →
      UncommentsBefore rest ('/' :: '*' :: (body ++ '*' :: '/' :: front))
        (body.filter (· = '\n') ++ ' ' :: plain)

/-- What was read, behind what was read before. -/
def Uncommented.behind (plain : List Char) (u : Uncommented) : Uncommented :=
  { u with text := plain ++ u.text }

theorem uncommentFrom_char {line : Nat} {c : Char} {rest : List Char}
    (h : ¬OpensComment (c :: rest)) : uncommentFrom .code line (c :: rest) =
      .push c (uncommentFrom .code (if c = '\n' then line + 1 else line) rest) := by
  rw [uncommentFrom]
  · rintro tail rfl rfl
    exact h ⟨tail, .inl rfl⟩
  · rintro tail rfl rfl
    exact h ⟨tail, .inr rfl⟩

theorem uncommentFrom_slashes (line : Nat) (rest : List Char) :
    uncommentFrom .code line ('/' :: '/' :: rest) = uncommentFrom .lineComment line rest := by
  rw [uncommentFrom]; rfl

theorem uncommentFrom_slashStar (line : Nat) (rest : List Char) :
    uncommentFrom .code line ('/' :: '*' :: rest) =
      uncommentFrom (.blockComment line false) line rest := by
  rw [uncommentFrom]; rfl

theorem uncommentFrom_line {line : Nat} {body : List Char} (h : '\n' ∉ body)
    (rest : List Char) : uncommentFrom .lineComment line (body ++ '\n' :: rest) =
      .push '\n' (uncommentFrom .code (line + 1) rest) := by
  induction body with
  | nil => simp [uncommentFrom]
  | cons c body ih =>
      simp [uncommentFrom, (List.ne_of_not_mem_cons h).symm, ih (List.not_mem_of_not_mem_cons h)]

theorem uncommentFrom_lastLine {line : Nat} {body : List Char} (h : '\n' ∉ body) :
    uncommentFrom .lineComment line body = ⟨[], none⟩ := by
  induction body with
  | nil => rfl
  | cons c body ih =>
      simp [uncommentFrom, (List.ne_of_not_mem_cons h).symm, ih (List.not_mem_of_not_mem_cons h)]

/-- What a comment in brackets still has to be free of, after a `*` or not. -/
def starred (star : Bool) (body : List Char) : List Char :=
  if star then '*' :: body else body

theorem starred_cons {star : Bool} {c : Char} {body : List Char}
    (h : NeverCloses (starred star (c :: body))) :
    (star && c == '/') = false ∧ NeverCloses (starred (c == '*') body) := by
  have hc : NeverCloses (c :: body) := by
    cases star with
    | false => exact h
    | true => exact fun hi => h (List.infix_cons hi)
  constructor
  · cases star with
    | false => rfl
    | true =>
        refine beq_false_of_ne fun hs => h ?_
        exact hs ▸ ⟨[], body, rfl⟩
  · by_cases hs : c = '*'
    · subst hs; exact hc
    · rw [starred, if_neg (by simpa using hs)]
      exact fun hi => hc (List.infix_cons hi)

theorem uncommentFrom_block (star : Bool) (opened line : Nat) {body : List Char}
    (h : NeverCloses (starred star body)) (rest : List Char) :
    uncommentFrom (.blockComment opened star) line (body ++ '*' :: '/' :: rest) =
      ⟨body.filter (· = '\n') ++
          ' ' :: (uncommentFrom .code (line + body.count '\n') rest).text,
        (uncommentFrom .code (line + body.count '\n') rest).unclosed?⟩ := by
  -- The scan remembers a `*` before what is left of the comment, and so does the claim.
  induction body generalizing line star with
  | nil => simp [uncommentFrom, Uncommented.push]
  | cons c body ih =>
      obtain ⟨hc, hb⟩ := starred_cons h
      rw [List.cons_append, uncommentFrom, hc, if_neg Bool.false_ne_true, ih _ _ hb]
      by_cases hn : c = '\n'
      · simp [hn, Uncommented.push, Nat.add_comm, Nat.add_left_comm]
      · simp [hn]

theorem uncommentFrom_unclosed (star : Bool) (opened line : Nat) {body : List Char}
    (h : NeverCloses (starred star body)) :
    uncommentFrom (.blockComment opened star) line body =
      ⟨body.filter (· = '\n') ++ [' '], some opened⟩ := by
  induction body generalizing line star with
  | nil => rfl
  | cons c body ih =>
      obtain ⟨hc, hb⟩ := starred_cons h
      rw [uncommentFrom, hc, if_neg Bool.false_ne_true, ih _ _ hb]
      by_cases hn : c = '\n'
      · simp [hn, Uncommented.push]
      · simp [hn]

theorem Uncomments.scan {text plain : List Char} (h : Uncomments text plain) (line : Nat) :
    uncommentFrom .code line text = ⟨plain, none⟩ := by
  induction h generalizing line with
  | nil => rfl
  | char ho _ ih => rw [uncommentFrom_char ho, ih]; rfl
  | line hb _ ih => rw [uncommentFrom_slashes, uncommentFrom_line hb, ih]; rfl
  | lastLine hb => rw [uncommentFrom_slashes, uncommentFrom_lastLine hb]
  | block hb _ ih => rw [uncommentFrom_slashStar, uncommentFrom_block false line line hb, ih]

/-- What follows is read as if it stood alone, from the line that it is on. -/
theorem UncommentsBefore.scan {rest front plain : List Char}
    (h : UncommentsBefore rest front plain) (line : Nat) :
    uncommentFrom .code line (front ++ rest) =
      (uncommentFrom .code (line + front.count '\n') rest).behind plain := by
  induction h generalizing line with
  | nil => rfl
  | @char c front plain ho _ ih =>
      rw [List.cons_append, uncommentFrom_char ho, ih]
      by_cases hc : c = '\n'
      · subst hc
        rw [if_pos rfl, List.count_cons_self, Nat.add_right_comm, Nat.add_assoc]
        rfl
      · rw [if_neg hc, List.count_cons_of_ne hc]
        rfl
  | @line body front plain hb _ ih =>
      have hc : ('/' :: '/' :: (body ++ '\n' :: front)).count '\n' = front.count '\n' + 1 := by
        simp [List.count_eq_zero_of_not_mem hb]
      rw [hc, List.cons_append, List.cons_append, List.append_assoc, List.cons_append,
        uncommentFrom_slashes, uncommentFrom_line hb, ih, Nat.add_right_comm, Nat.add_assoc]
      rfl
  | @block body front plain hb _ ih =>
      have hc : ('/' :: '*' :: (body ++ '*' :: '/' :: front)).count '\n' =
          body.count '\n' + front.count '\n' := by simp
      rw [hc, List.cons_append, List.cons_append, List.append_assoc, List.cons_append,
        List.cons_append, uncommentFrom_slashStar, uncommentFrom_block false line line hb, ih,
        Nat.add_assoc]
      simp [Uncommented.behind]

/-- The first end of a comment in brackets. -/
theorem exists_close {text : List Char} (h : ¬NeverCloses text) :
    ∃ body rest, text = body ++ '*' :: '/' :: rest ∧ NeverCloses body := by
  induction text with
  | nil => exact absurd (by simp [NeverCloses]) h
  | cons c text ih =>
      by_cases hp : ['*', '/'] <+: c :: text
      · obtain ⟨rest, hr⟩ := hp
        exact ⟨[], rest, hr.symm, by simp [NeverCloses]⟩
      · have ht : ['*', '/'] <:+: text :=
          (List.infix_cons_iff.mp (Classical.not_not.mp h)).resolve_left hp
        obtain ⟨body, rest, rfl, hb⟩ := ih (Classical.not_not.mpr ht)
        refine ⟨c :: body, rest, rfl, fun hi => ?_⟩
        rcases List.infix_cons_iff.mp hi with hf | hf
        · exact hp (hf.trans ⟨_, rfl⟩)
        · exact hb hf

/-- A comment ends with its line or the text, or in brackets, or not at all. -/
theorem OpensComment.cases {text : List Char} (h : OpensComment text) :
    (∃ body, text = '/' :: '/' :: body ∧ '\n' ∉ body) ∨
    (∃ body rest, text = '/' :: '/' :: (body ++ '\n' :: rest) ∧ '\n' ∉ body) ∨
    (∃ body, text = '/' :: '*' :: body ∧ NeverCloses body) ∨
    ∃ body rest, text = '/' :: '*' :: (body ++ '*' :: '/' :: rest) ∧ NeverCloses body := by
  obtain ⟨rest, rfl | rfl⟩ := h
  · by_cases hl : '\n' ∈ rest
    · obtain ⟨body, rest, rfl, hb⟩ := List.eq_append_cons_of_mem hl
      exact .inr (.inl ⟨body, rest, rfl, hb⟩)
    · exact .inl ⟨rest, rfl, hl⟩
  · by_cases hl : NeverCloses rest
    · exact .inr (.inr (.inl ⟨rest, rfl, hl⟩))
    · obtain ⟨body, rest, rfl, hb⟩ := exists_close hl
      exact .inr (.inr (.inr ⟨body, rest, rfl, hb⟩))

/-- A comment in brackets opens behind `front` and is not closed. Without its comments the text is
`plain`. -/
inductive LeavesOpen (front : List Char) : List Char → List Char → Prop where
  | block {body plain : List Char} : UncommentsBefore ('/' :: '*' :: body) front plain →
      NeverCloses body → LeavesOpen front (front ++ '/' :: '*' :: body)
        (plain ++ (body.filter (· = '\n') ++ [' ']))

/-- A comment that is not closed is known by the line that it opens on. -/
theorem LeavesOpen.scan {front text plain : List Char} (h : LeavesOpen front text plain)
    (line : Nat) :
    uncommentFrom .code line text = ⟨plain, some (line + front.count '\n')⟩ := by
  cases h with
  | block hf hb =>
      rw [hf.scan, uncommentFrom_slashStar, uncommentFrom_unclosed false _ _ hb]
      rfl

theorem uncomments_or_leavesOpen (text : List Char) :
    (∃ plain, Uncomments text plain) ∨ ∃ front plain, LeavesOpen front text plain := by
  -- A comment is left out as a whole, so the induction is on the length of what follows it.
  induction hn : text.length using Nat.strongRecOn generalizing text with
  | _ n ih =>
      subst hn
      by_cases ho : OpensComment text
      · rcases ho.cases with ⟨body, rfl, hb⟩ | ⟨body, rest, rfl, hb⟩ | ⟨body, rfl, hb⟩ |
          ⟨body, rest, rfl, hb⟩
        · exact .inl ⟨_, .lastLine hb⟩
        · rcases ih _ (by simp; omega) rest rfl with ⟨plain, hp⟩ | ⟨front, plain, ⟨hp, hc⟩⟩
          · exact .inl ⟨_, .line hb hp⟩
          · exact .inr ⟨_, _, by simpa using LeavesOpen.block (.line hb hp) hc⟩
        · exact .inr ⟨[], _, .block .nil hb⟩
        · rcases ih _ (by simp; omega) rest rfl with ⟨plain, hp⟩ | ⟨front, plain, ⟨hp, hc⟩⟩
          · exact .inl ⟨_, .block hb hp⟩
          · exact .inr ⟨_, _, by simpa using LeavesOpen.block (.block hb hp) hc⟩
      · cases text with
        | nil => exact .inl ⟨_, .nil⟩
        | cons c rest =>
            rcases ih _ (by simp) rest rfl with ⟨plain, hp⟩ | ⟨front, plain, ⟨hp, hc⟩⟩
            · exact .inl ⟨_, .char ho hp⟩
            · exact .inr ⟨_, _, .block (.char ho hp) hc⟩

/-- Removing comments leaves what a reader would leave, and tells of one that is not closed. -/
theorem uncomment_iff {text plain : List Char} :
    uncomment text = ⟨plain, none⟩ ↔ Uncomments text plain := by
  constructor
  · intro h
    rcases uncomments_or_leavesOpen text with ⟨plain', hp⟩ | ⟨front, plain', ho⟩
    · have hu : uncomment text = ⟨plain', none⟩ := hp.scan 1
      rw [h] at hu
      cases hu
      exact hp
    · have hu : uncomment text = ⟨plain', some (1 + front.count '\n')⟩ := ho.scan 1
      rw [h] at hu
      cases hu
  · exact fun h => h.scan 1

/-! ## Tokens -/

/-- The text is written with the tokens `ts`, and with white space between them. Words are as long
as they can be. -/
inductive Reads : List Char → List Token → Prop where
  | nil : Reads [] []
  | blank {c : Char} {rest : List Char} {ts : List Token} :
      Text.isBlank c = true → Reads rest ts → Reads (c :: rest) ts
  | mark {c : Char} {rest : List Char} {ts : List Token} : Text.isWordChar c = false →
      Text.isBlank c = false → Reads rest ts → Reads (c :: rest) (.mark c :: ts)
  | word {word rest : List Char} {ts : List Token} : IsWord word →
      (∀ c, rest.head? = some c → Text.isWordChar c = false) → Reads rest ts →
      Reads (word ++ rest) (.word word :: ts)

section

variable {line : Nat} {pending rest : List Char} {c : Char}

theorem ne_lineFeed_of_isWordChar (hw : Text.isWordChar c = true) : c ≠ '\n' := by
  rintro rfl
  exact absurd hw (by decide)

theorem ne_lineFeed_of_not_isBlank (hb : Text.isBlank c = false) : c ≠ '\n' := by
  rintro rfl
  exact absurd hb (by decide)

theorem tokensAfter_wordChar (hw : Text.isWordChar c = true) :
    tokensAfter line pending (c :: rest) = tokensAfter line (c :: pending) rest := by
  rw [tokensAfter, if_pos hw]

theorem tokensAfter_lineFeed : tokensAfter line pending ('\n' :: rest) =
    flushWord line pending ++ tokensAfter (line + 1) [] rest := by
  rw [tokensAfter, if_neg (by decide), if_pos rfl]

theorem tokensAfter_blank (hb : Text.isBlank c = true) (hn : c ≠ '\n') :
    tokensAfter line pending (c :: rest) =
      flushWord line pending ++ tokensAfter line [] rest := by
  rw [tokensAfter, if_neg (by simp [Text.isWordChar_of_isBlank hb]), if_neg hn, if_pos hb]

theorem tokensAfter_mark (hw : Text.isWordChar c = false) (hb : Text.isBlank c = false) :
    tokensAfter line pending (c :: rest) =
      flushWord line pending ++ ⟨line, .mark c⟩ :: tokensAfter line [] rest := by
  have hn := ne_lineFeed_of_not_isBlank hb
  rw [tokensAfter, if_neg (by simp [hw]), if_neg hn, if_neg (by simp [hb])]

/-- A character is part of a word, ends the line, stands between tokens, or is one. -/
theorem char_cases (c : Char) : Text.isWordChar c = true ∨ c = '\n' ∨
    (Text.isBlank c = true ∧ c ≠ '\n') ∨
    (Text.isWordChar c = false ∧ Text.isBlank c = false) := by
  cases hw : Text.isWordChar c <;> cases hb : Text.isBlank c <;> by_cases hn : c = '\n' <;>
    simp [hn]

end

/-- A word ends where no word character follows. -/
theorem tokensAfter_flush {line : Nat} {pending rest : List Char}
    (h : ∀ c, rest.head? = some c → Text.isWordChar c = false) :
    tokensAfter line pending rest = flushWord line pending ++ tokensAfter line [] rest := by
  cases rest with
  | nil => simp [tokensAfter, flushWord]
  | cons c rest => simp [tokensAfter, h c rfl, flushWord]

theorem tokensAfter_word {line : Nat} {pending word rest : List Char}
    (h : ∀ c ∈ word, Text.isWordChar c = true) :
    tokensAfter line pending (word ++ rest) = tokensAfter line (word.reverse ++ pending) rest := by
  induction word generalizing pending with
  | nil => rfl
  | cons c word ih =>
      obtain ⟨hc, hw⟩ := List.forall_mem_cons.mp h
      rw [List.cons_append, tokensAfter, if_pos hc, ih hw, List.reverse_cons, List.append_assoc,
        List.singleton_append]

theorem Reads.scan {text : List Char} {ts : List Token} (h : Reads text ts) (line : Nat) :
    (tokensAfter line [] text).map (·.value) = ts := by
  induction h generalizing line with
  | nil => rfl
  | @blank c rest ts hb _ ih =>
      by_cases hc : c = '\n'
      · rw [hc, tokensAfter_lineFeed]
        exact ih _
      · rw [tokensAfter_blank hb hc]
        exact ih _
  | mark hw hb _ ih =>
      rw [tokensAfter_mark hw hb]
      exact congrArg _ (ih _)
  | @word word rest ts hw hr _ ih =>
      rw [tokensAfter_word hw.2, tokensAfter_flush hr, List.map_append, ih]
      simp [flushWord, hw.1]

theorem exists_reads (text : List Char) : ∃ ts, Reads text ts := by
  induction hn : text.length using Nat.strongRecOn generalizing text with
  | _ n ih =>
      subst hn
      cases text with
      | nil => exact ⟨_, .nil⟩
      | cons c rest =>
          by_cases hw : Text.isWordChar c = true
          · have hm : IsWord ((c :: rest).takeWhile Text.isWordChar) :=
              ⟨by simp [hw], List.all_eq_true.mp List.all_takeWhile⟩
            have hr := List.head?_dropWhile_not Text.isWordChar (c :: rest)
            have hl : ((c :: rest).dropWhile Text.isWordChar).length < (c :: rest).length := by
              rw [List.dropWhile_cons, if_pos hw]
              exact Nat.lt_succ_of_le (List.dropWhile_sublist _).length_le
            obtain ⟨ts, hts⟩ := ih _ hl _ rfl
            rw [← List.takeWhile_append_dropWhile (p := Text.isWordChar) (l := c :: rest)]
            refine ⟨_, .word hm (fun d hd => ?_) hts⟩
            rw [hd] at hr
            simpa using hr
          · obtain ⟨ts, hts⟩ := ih _ (by simp) rest rfl
            by_cases hb : Text.isBlank c = true
            · exact ⟨_, .blank hb hts⟩
            · exact ⟨_, .mark (by simpa using hw) (by simpa using hb) hts⟩

theorem tokens_iff {text : List Char} {ts : List Token} :
    (tokens text).map (·.value) = ts ↔ Reads text ts := by
  constructor
  · rintro rfl
    obtain ⟨ts, hts⟩ := exists_reads text
    exact hts.scan 1 ▸ hts
  · exact fun h => h.scan 1

end Offload.Source
