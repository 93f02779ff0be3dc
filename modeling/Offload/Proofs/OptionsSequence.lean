import Offload.Proofs.OptionsText

/-!
# Options texts one after another

An options text is read word by word, and all that a word leaves for the next one is a bare `-D`. So
a text that is read whole says the same in front of any other text, and one that is refused for
anything but a bare `-D` at its end is refused in front of any other text.
-/

namespace Offload

namespace Text

theorem words_of_blanks {blanks : List Char} (h : ∀ c ∈ blanks, isBlank c = true)
    (rest : List Char) : words (blanks ++ rest) = words rest := by
  induction blanks with
  | nil => rfl
  | cons b bs ih =>
      obtain ⟨hb, hbs⟩ := List.forall_mem_cons.mp h
      exact (wordsAfter_blank hb [] [] (bs ++ rest)).trans (ih hbs)

/-- White space between two texts keeps their words apart. -/
theorem words_append {blanks : List Char} (hn : blanks ≠ []) (h : ∀ c ∈ blanks, isBlank c = true)
    (text rest : List Char) : words (text ++ blanks ++ rest) = words text ++ words rest := by
  cases blanks with
  | nil => exact absurd rfl hn
  | cons b bs =>
      obtain ⟨hb, hbs⟩ := List.forall_mem_cons.mp h
      rw [List.append_assoc, List.cons_append, words, wordsAfter_blank hb, words_of_blanks hbs]
      rfl

/-- Words with a space between them are read as they are. -/
theorem words_intercalate_runs {runs : List (List Char)} (h : ∀ run ∈ runs, IsRun run) :
    words ([' '].intercalate runs) = runs := by
  rw [words_intercalate, List.flatMap_def,
    List.map_congr_left fun run hr => (h run hr).words_eq, ← List.flatMap_def,
    List.flatMap_singleton']

end Text

namespace BuildOptions

/-- `-D` by itself: the definition is the next word. -/
def marker : List Char := ['-', 'D']

/-- Definitions and flags of `o`, then those of `o'`. -/
def followedBy (o o' : BuildOptions) : BuildOptions :=
  { o' with defines := o.defines ++ o'.defines, flags := o.flags ++ o'.flags }

/-- The text ends in a bare `-D`, and what comes before that can be read. -/
def EndsInMarker (text : String) : Prop :=
  ∃ front, Text.words text.toList = Text.words front.toList ++ [marker] ∧
    ∃ o, parse front = .ok o

variable {o o' o₁ : BuildOptions} {words rest : List (List Char)} {text : List Char}
  {e : OptionsError} {r : Except OptionsError BuildOptions}

/-! ## Words one after another -/

theorem addDefine_eq (o : BuildOptions) (text : List Char) :
    o.addDefine text =
      (readDefine text).map fun d => { o with defines := o.defines ++ [d] } := by
  unfold addDefine
  cases readDefine text <;> rfl

/-- A bad definition is refused for its name. -/
theorem ne_missingMacro_of_addDefine (h : o.addDefine text = .error e) : e ≠ .missingMacro := by
  unfold addDefine readDefine at h
  dsimp only at h
  split at h
  · split at h <;> cases h
  · cases h
    exact nofun

theorem addWords_joined (hn : text ≠ []) :
    addWords o (('-' :: 'D' :: text) :: rest) = (do addWords (← o.addDefine text) rest) := by
  cases text with
  | nil => exact absurd rfl hn
  | cons c cs => simp only [addWords]

/-- What is left of a word behind the `-D` that it begins with, where the `-D` is not all of it. -/
theorem ne_nil_of_joined (h1 : rest = [] → text = [] → False)
    (h2 : ∀ next later, rest = next :: later → text = [] → False) : text ≠ [] := by
  rintro rfl
  cases rest with
  | nil => exact h1 rfl rfl
  | cons next later => exact h2 next later rfl rfl

/-- How words are read, and what that means for words behind them. -/
inductive Reading (o : BuildOptions) (words : List (List Char)) :
    Except OptionsError BuildOptions → Prop where
  | whole {o' : BuildOptions} (on : ∀ more, addWords o (words ++ more) = addWords o' more) :
      Reading o words (.ok o')
  | refused {e : OptionsError} (reason : e ≠ .missingMacro)
      (on : ∀ more, addWords o (words ++ more) = .error e) : Reading o words (.error e)
  | dangling (front : List (List Char)) {o' : BuildOptions} (ends : words = front ++ [marker])
      (read : addWords o front = .ok o') : Reading o words (.error .missingMacro)

/-- Words that only change the options to `o₁` can be put in front. -/
theorem Reading.after (unit : List (List Char))
    (hu : ∀ more, addWords o (unit ++ more) = addWords o₁ more) (h : Reading o₁ rest r) :
    Reading o (unit ++ rest) r := by
  have step more : addWords o (unit ++ rest ++ more) = addWords o₁ (rest ++ more) := by
    rw [List.append_assoc, hu]
  cases h with
  | whole on => exact .whole fun more => (step more).trans (on more)
  | refused reason on => exact .refused reason fun more => (step more).trans (on more)
  | dangling front ends read =>
      refine .dangling (unit ++ front) ?_ ((hu front).trans read)
      rw [ends, List.append_assoc]

theorem addWords_reading (o : BuildOptions) (words : List (List Char)) :
    Reading o words (addWords o words) := by
  fun_induction addWords o words with
  | case1 o => exact .whole fun more => rfl
  | case2 o => exact .dangling [] rfl rfl
  | case3 o text rest ih =>
      cases hd : o.addDefine text with
      | error e =>
          refine .refused (ne_missingMacro_of_addDefine hd) fun more => ?_
          simp only [List.cons_append, addWords, hd]
          rfl
      | ok o₁ =>
          refine Reading.after [marker, text] (fun more => ?_) (ih o₁)
          show addWords o (['-', 'D'] :: text :: more) = _
          simp only [addWords, hd]
          rfl
  | case4 o text rest h1 h2 ih =>
      have hn : text ≠ [] := ne_nil_of_joined h1 h2
      cases hd : o.addDefine text with
      | error e =>
          refine .refused (ne_missingMacro_of_addDefine hd) fun more => ?_
          rw [List.cons_append, addWords_joined hn, hd]
          rfl
      | ok o₁ =>
          refine Reading.after ['-' :: 'D' :: text] (fun more => ?_) (ih o₁)
          rw [List.singleton_append, addWords_joined hn, hd]
          rfl
  | case5 o word rest h1 h2 h3 hk ih =>
      exact Reading.after [word] (fun more => addWords_flag o hk more) ih
  | case6 o word rest h1 h2 h3 hk =>
      refine .refused (by simp) fun more => ?_
      rw [List.cons_append, addWords_word o h3, if_neg hk]

/-- What is read does not depend on the options that it is added to. -/
theorem addWords_followedBy (o o' : BuildOptions) (words : List (List Char)) :
    addWords (o.followedBy o') words = (addWords o' words).map o.followedBy := by
  have define (o' : BuildOptions) (text : List Char) :
      (o.followedBy o').addDefine text = (o'.addDefine text).map o.followedBy := by
    rw [addDefine_eq, addDefine_eq]
    cases readDefine text with
    | error e => rfl
    | ok d => simp [Except.map, followedBy]
  fun_induction addWords o' words with
  | case1 o' => rfl
  | case2 o' => rfl
  | case3 o' text rest ih =>
      simp only [addWords, define]
      cases o'.addDefine text with
      | error e => rfl
      | ok o₁ => exact ih o₁
  | case4 o' text rest h1 h2 ih =>
      rw [addWords_joined (ne_nil_of_joined h1 h2), define]
      cases o'.addDefine text with
      | error e => rfl
      | ok o₁ => exact ih o₁
  | case5 o' word rest h1 h2 h3 hk ih =>
      rw [addWords_flag _ hk, ← ih]
      simp [followedBy]
  | case6 o' word rest h1 h2 h3 hk =>
      rw [addWords_word _ h3, if_neg hk]
      rfl

/-! ## Texts one after another -/

theorem followedBy_empty (o : BuildOptions) (hf : o.fastPath = false) (hv : o.verbose = false) :
    o.followedBy {} = o := by
  obtain ⟨defines, flags, fastPath, verbose⟩ := o
  cases hf
  cases hv
  simp [followedBy]

/-- The last definition of a macro counts, and it is in the second options if they have any. -/
theorem defineValue?_followedBy (o o' : BuildOptions) (name : String) :
    (o.followedBy o').defineValue? name = (o'.defineValue? name).or (o.defineValue? name) := by
  simp only [defineValue?, followedBy, List.reverse_append, List.find?_append, Option.map_or]

theorem reading_of_parse {text : String} (h : parse text = r) :
    Reading {} (Text.words text.toList) r :=
  h ▸ addWords_reading {} (Text.words text.toList)

/-- What is missing is a name behind the last word. -/
theorem parse_eq_missingMacro_iff {text : String} :
    parse text = .error .missingMacro ↔ EndsInMarker text := by
  constructor
  · intro h
    cases reading_of_parse h with
    | refused reason on => exact absurd rfl reason
    | dangling front ends read =>
        have hr : ∀ run ∈ front, Text.IsRun run := fun run hm =>
          Text.words_isRun (ends ▸ List.mem_append_left _ hm)
        have hf : Text.words (String.ofList ([' '].intercalate front)).toList = front := by
          rw [String.toList_ofList, Text.words_intercalate_runs hr]
        exact ⟨String.ofList ([' '].intercalate front), by rw [hf, ends], _,
          by rw [parse, hf, read]⟩
  · rintro ⟨front, hw, o, ho⟩
    cases reading_of_parse ho with
    | whole on =>
        rw [parse, hw, on]
        rfl

/-- Two texts with white space between them are read as one after the other. What the first one says
stands in front, and its definitions give way to those of the second one. If the first one is
refused, the reason is the same with the second one behind it, unless a bare `-D` at its end is all
that is wrong with it. -/
theorem parse_sequence {s w t : String} (hn : w ≠ "")
    (hw : ∀ c ∈ w.toList, Text.isBlank c = true) :
    (∀ o, parse s = .ok o →
      (∀ o', parse t = .ok o' → parse (s ++ w ++ t) = .ok (o.followedBy o') ∧
        ∀ name, (o.followedBy o').defineValue? name =
          (o'.defineValue? name).or (o.defineValue? name)) ∧
      ∀ e, parse t = .error e → parse (s ++ w ++ t) = .error e) ∧
    ∀ e, parse s = .error e →
      (e = .missingMacro ↔ EndsInMarker s) ∧
      (¬ EndsInMarker s → parse (s ++ w ++ t) = .error e) := by
  have hp : parse (s ++ w ++ t) = addWords {} (Text.words s.toList ++ Text.words t.toList) := by
    rw [parse, String.toList_append, String.toList_append,
      Text.words_append (by simpa using hn) hw]
  constructor
  · intro o ho
    cases reading_of_parse ho with
    | whole on =>
        obtain ⟨⟨hf, hv, -⟩, -⟩ := parse_textual ho
        have hj : parse (s ++ w ++ t) = (parse t).map o.followedBy := by
          rw [hp, on, parse, ← addWords_followedBy, o.followedBy_empty hf hv]
        refine ⟨fun o' ho' => ⟨?_, defineValue?_followedBy o o'⟩, fun e he => ?_⟩
        · rw [hj, ho']
          rfl
        · rw [hj, he]
          rfl
  · intro e he
    have hm : e = .missingMacro ↔ EndsInMarker s := by
      rw [← parse_eq_missingMacro_iff, he, Except.error.injEq]
    refine ⟨hm, fun hs => ?_⟩
    cases reading_of_parse he with
    | refused reason on => rw [hp, on]
    | dangling front ends read => exact absurd (hm.mp rfl) hs

/-- The second text takes the value of a macro away. A text that is refused for its first word keeps
that reason, though it ends in a bare `-D` as well. -/
theorem parse_sequence_tile :
    ∃ o o', parse "-w -D TILE=16" = .ok o ∧ parse "-DTILE -cl-mad-enable" = .ok o' ∧
      parse ("-w -D TILE=16" ++ "\t " ++ "-DTILE -cl-mad-enable") = .ok (o.followedBy o') ∧
      (o.followedBy o').defineValue? "TILE" = some "" ∧
      parse ("-O3 -D" ++ "\t " ++ "TILE") = .error (.unrecognized "-O3") := by
  have hn : "\t " ≠ "" := by decide
  have hw : ∀ c ∈ "\t ".toList, Text.isBlank c = true :=
    List.all_eq_true.mp (show "\t ".toList.all Text.isBlank = true by decide)
  have hs : parse "-w -D TILE=16" = .ok ⟨[⟨"TILE", some "16"⟩], ["-w"], false, false⟩ := by rfl
  have ht : parse "-DTILE -cl-mad-enable" =
      .ok ⟨[⟨"TILE", none⟩], ["-cl-mad-enable"], false, false⟩ := by rfl
  have hr : parse "-O3 -D" = .error (.unrecognized "-O3") := by rfl
  obtain ⟨hj, hv⟩ := ((parse_sequence hn hw).1 _ hs).1 _ ht
  obtain ⟨hm, hf⟩ := (parse_sequence (t := "TILE") hn hw).2 _ hr
  exact ⟨_, _, hs, ht, hj, hv "TILE", hf (mt hm.mpr nofun)⟩

end BuildOptions

end Offload
