import Mathlib.Logic.Relation
import Offload.Proofs.Acceptance

/-!
# Comments are white space

Texts that end outside of comments, and what is read behind them. Main statement: a text builds to
what it builds to with its comments replaced by white space.
-/

namespace Offload.Source

/-! ## Texts that end outside of comments -/

/-- The text ends outside of comments. -/
def EndsOutside (text : List Char) : Prop :=
  ∃ plain, UncommentsBefore [] text plain

theorem opensComment_cons_cons {c d : Char} {text : List Char} :
    OpensComment (c :: d :: text) ↔ c = '/' ∧ (d = '/' ∨ d = '*') := by
  constructor
  · rintro ⟨rest, h | h⟩ <;> cases h
    · exact ⟨rfl, .inl rfl⟩
    · exact ⟨rfl, .inr rfl⟩
  · rintro ⟨rfl, rfl | rfl⟩
    · exact ⟨text, .inl rfl⟩
    · exact ⟨text, .inr rfl⟩

theorem not_opensComment {c : Char} (h : c ≠ '/') (text : List Char) :
    ¬OpensComment (c :: text) := by
  rintro ⟨rest, ho | ho⟩ <;> cases ho <;> exact h rfl

/-- Whether a comment opens is seen from two characters. -/
theorem not_opensComment_append {c : Char} {front rest : List Char}
    (h : ¬OpensComment (c :: front)) (hr : front = [] → ¬OpensComment (c :: rest)) :
    ¬OpensComment (c :: (front ++ rest)) := by
  cases front with
  | nil => exact hr rfl
  | cons d front =>
      rw [opensComment_cons_cons] at h
      rw [List.cons_append, opensComment_cons_cons]
      exact h

theorem getLast?_ne_of_append (front : List Char) {back : List Char} {c : Char}
    (h : (front ++ back).getLast? ≠ some c) : back.getLast? ≠ some c := by
  intro hb
  rw [List.getLast?_append, hb] at h
  exact h rfl

namespace UncommentsBefore

variable {rest front plain : List Char}

/-- A text without slashes opens no comment. -/
theorem of_no_slash (h : '/' ∉ front) (rest : List Char) : UncommentsBefore rest front front := by
  induction front with
  | nil => exact .nil
  | cons c front ih =>
      have hc : c ≠ '/' := (List.ne_of_not_mem_cons h).symm
      exact .char (not_opensComment hc _) (ih (List.not_mem_of_not_mem_cons h))

/-- A text that ends outside of comments, and in no slash, does so in front of any other. -/
theorem before (h : UncommentsBefore [] front plain) (hs : front.getLast? ≠ some '/')
    (rest : List Char) : UncommentsBefore rest front plain := by
  -- Only the last character could open a comment together with what follows.
  induction h with
  | nil => exact .nil
  | @char c front plain ho _ ih =>
      rw [List.append_nil] at ho
      refine .char (not_opensComment_append ho fun hf => ?_) (ih (getLast?_ne_of_append [c] hs))
      exact not_opensComment (fun hc => hs (by rw [hf, hc]; rfl)) rest
  | @line body front plain hb _ ih =>
      refine .line hb (ih (getLast?_ne_of_append (['/', '/'] ++ body ++ ['\n']) ?_))
      simpa using hs
  | @block body front plain hb _ ih =>
      refine .block hb (ih (getLast?_ne_of_append (['/', '*'] ++ body ++ ['*', '/']) ?_))
      simpa using hs

end UncommentsBefore

theorem EndsOutside.of_no_slash {text : List Char} (h : '/' ∉ text) : EndsOutside text :=
  ⟨text, .of_no_slash h []⟩

/-! ## White space in place of a comment -/

/-- One comment of `before` is white space in `after`: as many line ends as it has and a space if it
is in brackets, nothing if it ends with its line. -/
inductive Blanks : List Char → List Char → Prop where
  | block (front body rest : List Char) : EndsOutside front →
      front.getLast? ≠ some '/' → NeverCloses body →
      Blanks (front ++ (['/', '*'] ++ body ++ ['*', '/']) ++ rest)
        (front ++ (List.replicate (body.count '\n') '\n' ++ [' ']) ++ rest)
  | line (front body rest : List Char) : EndsOutside front →
      front.getLast? ≠ some '/' → '\n' ∉ body →
      Blanks (front ++ (['/', '/'] ++ body ++ ['\n']) ++ rest) (front ++ ['\n'] ++ rest)

section

variable {front body before after : List Char}

/-- White space is read as it is. -/
theorem uncommentFrom_blank {space : List Char} (h : '/' ∉ space) (line : Nat)
    (rest : List Char) : uncommentFrom .code line (space ++ rest) =
      (uncommentFrom .code (line + space.count '\n') rest).behind space :=
  (UncommentsBefore.of_no_slash h rest).scan line

theorem uncommentFrom_brackets (hb : NeverCloses body) (line : Nat) (rest : List Char) :
    uncommentFrom .code line (['/', '*'] ++ body ++ ['*', '/'] ++ rest) =
      uncommentFrom .code line (List.replicate (body.count '\n') '\n' ++ [' '] ++ rest) := by
  have hn : '/' ∉ List.replicate (body.count '\n') '\n' ++ [' '] := by
    simp [List.mem_replicate]
  have hc : (List.replicate (body.count '\n') '\n' ++ [' ']).count '\n' = body.count '\n' := by
    simp
  rw [uncommentFrom_blank hn, hc, ← List.filter_eq]
  simp [uncommentFrom_slashStar, uncommentFrom_block false _ _ hb, Uncommented.behind]

theorem uncommentFrom_lineEnd (hb : '\n' ∉ body) (line : Nat) (rest : List Char) :
    uncommentFrom .code line (['/', '/'] ++ body ++ ['\n'] ++ rest) =
      uncommentFrom .code line (['\n'] ++ rest) := by
  rw [uncommentFrom_blank (by decide : '/' ∉ ['\n'])]
  simp [uncommentFrom_slashes, uncommentFrom_line hb, Uncommented.behind, Uncommented.push]

/-- What is read alike is read alike behind a text that ends outside of comments. -/
theorem EndsOutside.uncomment_congr (hf : EndsOutside front) (hs : front.getLast? ≠ some '/')
    (h : ∀ line, uncommentFrom .code line before = uncommentFrom .code line after) :
    uncomment (front ++ before) = uncomment (front ++ after) := by
  obtain ⟨plain, hp⟩ := hf
  unfold uncomment
  rw [(hp.before hs before).scan, (hp.before hs after).scan, h]

theorem Blanks.uncomment_eq (h : Blanks before after) : uncomment before = uncomment after := by
  cases h with
  | block front body rest hf hs hb =>
      rw [List.append_assoc front, List.append_assoc front]
      exact hf.uncomment_congr hs fun line => uncommentFrom_brackets hb line rest
  | line front body rest hf hs hb =>
      rw [List.append_assoc front, List.append_assoc front]
      exact hf.uncomment_congr hs fun line => uncommentFrom_lineEnd hb line rest

theorem uncomment_eq_of_blanks (h : Relation.ReflTransGen Blanks before after) :
    uncomment before = uncomment after := by
  induction h with
  | refl => rfl
  | tail _ hb ih => exact ih.trans hb.uncomment_eq

end

/-- What is linked of a text depends on what it is without its comments. -/
theorem link_congr {κ : Type} {before after : List Char} (h : uncomment before = uncomment after)
    (find? : String → Option κ) (flags : List String) :
    link find? flags before = link find? flags after := by
  unfold link surfaceErrors declared
  rw [h]

end Offload.Source

namespace Offload.Cpu

open Source

/-- A text can have any of its comments replaced by white space. It is the same without its
comments then, a comment that is not closed is on the same line, and it builds to the same program
or to the same log. -/
theorem comments_blank {before after : String}
    (h : Relation.ReflTransGen Blanks before.toList after.toList) :
    uncomment before.toList = uncomment after.toList ∧
      ∀ context device options,
        build context device before options = build context device after options := by
  have hu := uncomment_eq_of_blanks h
  refine ⟨hu, fun context device options => ?_⟩
  unfold build
  rw [link_congr hu]

theorem comments_blank_starry :
    Relation.ReflTransGen Blanks "kernel /*/ a\n*b **/ void f() // /*\n{}".toList
        "kernel \n  void f() \n{}".toList ∧
      (build ⟨0, {}, .ofList Builtin.all, usualCapacity⟩ {}
          "kernel /*/ a\n*b **/ void f() // /*\n{}" {} =
        build ⟨0, {}, .ofList Builtin.all, usualCapacity⟩ {} "kernel \n  void f() \n{}" {}) := by
  have hblock : Blanks "kernel /*/ a\n*b **/ void f() // /*\n{}".toList
      "kernel \n  void f() // /*\n{}".toList :=
    .block "kernel ".toList "/ a\n*b *".toList " void f() // /*\n{}".toList
      (.of_no_slash (by decide)) (by decide) (by unfold NeverCloses; decide +kernel)
  have hline : Blanks "kernel \n  void f() // /*\n{}".toList
      "kernel \n  void f() \n{}".toList :=
    .line "kernel \n  void f() ".toList " /*".toList "{}".toList
      (.of_no_slash (by decide)) (by decide) (by decide)
  have h := (Relation.ReflTransGen.single hblock).tail hline
  exact ⟨h, (comments_blank h).2 _ _ _⟩

end Offload.Cpu
