import Offload.Proofs.Comments

/-!
# Lines keep their numbers

What stands on further lines of a text is read as if it stood alone, on lines that are as much
further down. Main statement: a text and what follows on the next line have the tokens of both.
-/

namespace Offload.Source

/-! ## Lines further down -/

/-- The same, `n` lines further down. -/
def Located.lower {α : Type} (n : Nat) (x : Located α) : Located α :=
  { x with line := x.line + n }

def Uncommented.lower (n : Nat) (u : Uncommented) : Uncommented :=
  { u with unclosed? := u.unclosed?.map (· + n) }

theorem uncommentFrom_lower (line n : Nat) (text : List Char) :
    uncommentFrom .code (line + n) text = (uncommentFrom .code line text).lower n := by
  rcases uncomments_or_leavesOpen text with ⟨plain, h⟩ | ⟨front, plain, h⟩
  · rw [h.scan, h.scan]
    rfl
  · rw [h.scan, h.scan, Nat.add_right_comm]
    rfl

theorem flushWord_lower (line n : Nat) (pending : List Char) :
    flushWord (line + n) pending = (flushWord line pending).map (·.lower n) := by
  unfold flushWord
  split
  · rfl
  · rfl

theorem tokensAfter_lower (line n : Nat) (pending text : List Char) :
    tokensAfter (line + n) pending text = (tokensAfter line pending text).map (·.lower n) := by
  induction text generalizing line pending with
  | nil => exact flushWord_lower line n pending
  | cons c rest ih =>
      rcases char_cases c with hw | rfl | ⟨hb, hn⟩ | ⟨hw, hb⟩
      · rw [tokensAfter_wordChar hw, tokensAfter_wordChar hw, ih]
      · rw [tokensAfter_lineFeed, tokensAfter_lineFeed, List.map_append, flushWord_lower,
          Nat.add_right_comm, ih]
      · rw [tokensAfter_blank hb hn, tokensAfter_blank hb hn, List.map_append, flushWord_lower, ih]
      · rw [tokensAfter_mark hw hb, tokensAfter_mark hw hb, List.map_append, flushWord_lower, ih]
        rfl

/-! ## Texts on top of others -/

/-- A line end closes what is left open of a comment that ends with its line. -/
theorem Uncomments.above {front plain : List Char} (h : Uncomments front plain)
    (rest : List Char) : UncommentsBefore rest (front ++ ['\n']) (plain ++ ['\n']) := by
  induction h with
  | nil => exact .of_no_slash (by decide) rest
  | @char c front plain ho _ ih =>
      refine .char ?_ ih
      rw [List.append_eq, List.append_assoc]
      refine not_opensComment_append ho fun _ hc => ?_
      exact absurd (opensComment_cons_cons.mp hc).2 (by decide)
  | line hb _ ih => simpa using UncommentsBefore.line hb ih
  | lastLine hb => exact .line hb .nil
  | block hb _ ih => simpa using UncommentsBefore.block hb ih

theorem uncomment_above {front plain : List Char} (h : Uncomments front plain)
    (rest : List Char) : uncomment (front ++ '\n' :: rest) =
      ((uncomment rest).lower (front.count '\n' + 1)).behind (plain ++ ['\n']) := by
  have hc : 1 + (front ++ ['\n']).count '\n' = 1 + (front.count '\n' + 1) := by simp
  unfold uncomment
  rw [List.append_cons, (h.above rest).scan, hc, uncommentFrom_lower]

/-- A word ends with its line. -/
theorem tokensAfter_above (line : Nat) (pending front rest : List Char) :
    tokensAfter line pending (front ++ '\n' :: rest) =
      tokensAfter line pending front ++ tokensAfter (line + (front.count '\n' + 1)) [] rest := by
  -- The word read so far may go on in `front`, so it is kept general.
  induction front generalizing line pending with
  | nil => exact tokensAfter_lineFeed
  | cons c front ih =>
      rw [List.cons_append]
      rcases char_cases c with hw | rfl | ⟨hb, hn⟩ | ⟨hw, hb⟩
      · have hn := ne_lineFeed_of_isWordChar hw
        rw [tokensAfter_wordChar hw, tokensAfter_wordChar hw, ih, List.count_cons_of_ne hn]
      · rw [tokensAfter_lineFeed, tokensAfter_lineFeed, ih, List.count_cons_self,
          List.append_assoc, Nat.add_assoc line, Nat.add_comm 1]
      · rw [tokensAfter_blank hb hn, tokensAfter_blank hb hn, ih, List.count_cons_of_ne hn,
          List.append_assoc]
      · have hn := ne_lineFeed_of_not_isBlank hb
        rw [tokensAfter_mark hw hb, tokensAfter_mark hw hb, ih, List.count_cons_of_ne hn,
          List.append_assoc, List.cons_append]

theorem tokens_above (front rest : List Char) :
    tokens (front ++ '\n' :: rest) =
      tokens front ++ (tokens rest).map (·.lower (front.count '\n' + 1)) := by
  unfold tokens
  rw [tokensAfter_above, tokensAfter_lower]

/-! ## Texts without comments -/

theorem Uncommented.push_text (c : Char) (u : Uncommented) : (u.push c).text = c :: u.text :=
  rfl

theorem count_uncommentFrom (state : CommentState) (line : Nat) (text : List Char) :
    (uncommentFrom state line text).text.count '\n' = text.count '\n' := by
  fun_induction uncommentFrom state line text with
  | case1 => rfl
  | case2 => rfl
  | case3 line rest _ ih =>
      rw [Uncommented.push_text, List.count_cons_self, List.count_cons_self, ih]
  | case4 line c rest _ hn ih => rw [ih, List.count_cons_of_ne hn]
  | case5 line c rest _ opened star hs ih =>
      have hn : c ≠ '\n' := by
        rintro rfl
        simp at hs
      rw [Uncommented.push_text, List.count_cons_of_ne (by decide), List.count_cons_of_ne hn, ih]
  | case6 line rest opened star _ _ after ih =>
      rw [Uncommented.push_text, List.count_cons_self, List.count_cons_self, ih]
  | case7 line c rest _ opened star _ after hn ih => rw [List.count_cons_of_ne hn, ih]
  | case8 line rest _ ih => rw [ih]; rfl
  | case9 line rest _ ih => rw [ih]; rfl
  | case10 line c rest _ _ _ ih =>
      rw [Uncommented.push_text, List.count_cons, List.count_cons, ih]

/-- No comment opens in the text. -/
inductive CommentFree : List Char → Prop where
  | nil : CommentFree []
  | cons {c : Char} {text : List Char} : ¬OpensComment (c :: text) → CommentFree text →
      CommentFree (c :: text)

theorem CommentFree.uncomments {text : List Char} (h : CommentFree text) :
    Uncomments text text := by
  induction h with
  | nil => exact .nil
  | cons ho _ ih => exact .char ho ih

/-- What is left opens a comment only where the text did. -/
theorem not_opensComment_uncommentFrom {c : Char} {rest : List Char}
    (h : ¬OpensComment (c :: rest)) (line : Nat) :
    ¬OpensComment (c :: (uncommentFrom .code line rest).text) := by
  by_cases hc : c = '/'
  · cases rest with
    | nil =>
        rintro ⟨tail, ht | ht⟩ <;> cases ht
    | cons d rest =>
        rw [opensComment_cons_cons] at h
        have hd : d ≠ '/' := fun hd => h ⟨hc, .inl hd⟩
        rw [uncommentFrom_char (not_opensComment hd rest)]
        exact fun ho => h (opensComment_cons_cons.mp ho)
  · exact not_opensComment hc _

theorem commentFree_uncommentFrom (state : CommentState) (line : Nat) (text : List Char) :
    CommentFree (uncommentFrom state line text).text := by
  fun_induction uncommentFrom state line text with
  | case1 => exact .cons (not_opensComment (by decide) _) .nil
  | case2 => exact .nil
  | case3 line rest _ ih => exact .cons (not_opensComment (by decide) _) ih
  | case4 line c rest _ _ ih => exact ih
  | case5 line c rest _ opened star _ ih => exact .cons (not_opensComment (by decide) _) ih
  | case6 line rest opened star _ _ after ih => exact .cons (not_opensComment (by decide) _) ih
  | case7 line c rest _ opened star _ after _ ih => exact ih
  | case8 line rest _ ih => exact ih
  | case9 line rest _ ih => exact ih
  | case10 line c rest hslash hstar _ ih =>
      refine .cons (not_opensComment_uncommentFrom ?_ _) ih
      rintro ⟨tail, ho | ho⟩ <;> cases ho
      · exact hslash _ rfl rfl
      · exact hstar _ rfl rfl

/-- What is left without comments stays as it is. -/
theorem uncomment_uncomment (text : List Char) :
    uncomment (uncomment text).text = ⟨(uncomment text).text, none⟩ :=
  uncomment_iff.mpr (commentFree_uncommentFrom .code 1 text).uncomments

theorem count_uncomment (text : List Char) :
    (uncomment text).text.count '\n' = text.count '\n' :=
  count_uncommentFrom .code 1 text

/-! ## One text on top of another -/

/-- A comment that is not closed is reported on the line it opens on. -/
theorem unclosed?_eq_some_iff {text : List Char} {line : Nat} :
    (uncomment text).unclosed? = some line ↔
      ∃ front plain, LeavesOpen front text plain ∧ line = front.count '\n' + 1 := by
  constructor
  · intro h
    rcases uncomments_or_leavesOpen text with ⟨plain, hp⟩ | ⟨front, plain, ho⟩
    · rw [uncomment_iff.mpr hp] at h
      cases h
    · have hu : uncomment text = ⟨plain, some (1 + front.count '\n')⟩ := ho.scan 1
      rw [hu] at h
      cases h
      exact ⟨front, plain, ho, Nat.add_comm 1 _⟩
  · rintro ⟨front, plain, ho, rfl⟩
    have hu : uncomment text = ⟨plain, some (1 + front.count '\n')⟩ := ho.scan 1
    rw [hu, Nat.add_comm]

/-- If the comments of a text are closed, then the text with more lines below has its own tokens and
those of what is below, with what is wrong there, as many lines further down. A comment that is not
closed is on the line that it opens on. All line ends stay, and no comment. -/
theorem lines_kept (text : List Char) :
    (∀ below, (∃ plain, Uncomments text plain) →
      tokens (uncomment (text ++ '\n' :: below)).text =
          tokens (uncomment text).text ++
            (tokens (uncomment below).text).map (·.lower (text.count '\n' + 1)) ∧
        (uncomment (text ++ '\n' :: below)).unclosed? =
          (uncomment below).unclosed?.map (· + (text.count '\n' + 1))) ∧
    (∀ line, (uncomment text).unclosed? = some line ↔
      ∃ front plain, LeavesOpen front text plain ∧ line = front.count '\n' + 1) ∧
    (uncomment text).text.count '\n' = text.count '\n' ∧
    uncomment (uncomment text).text = ⟨(uncomment text).text, none⟩ := by
  refine ⟨?_, fun line => unclosed?_eq_some_iff, count_uncomment text, uncomment_uncomment text⟩
  rintro below ⟨plain, hp⟩
  have hu := uncomment_iff.mpr hp
  have hc : plain.count '\n' = text.count '\n' := by
    rw [← count_uncomment text, hu]
  have ht : (uncomment (text ++ '\n' :: below)).text =
      plain ++ '\n' :: (uncomment below).text := by
    rw [uncomment_above hp]
    exact List.append_assoc _ _ _
  constructor
  · rw [ht, tokens_above, hu, hc]
  · rw [uncomment_above hp]
    rfl

example : tokens (uncomment "a // x\n/* y\n z */ b".toList).text =
    [⟨1, .word ['a']⟩, ⟨3, .word ['b']⟩] := by
  decide +kernel

end Offload.Source
