import Offload.BuildOptions

/-!
# Options as text

Options are written as the words that they can be read from. What a text cannot say is lost on the
way: the fast path, the reporting of logs, and definitions that would be read as more than one word
or under another name.
-/

namespace Offload

/-! ## Words -/

namespace Text

/-- A word by itself: not empty, and without white space. -/
structure IsRun (word : List Char) : Prop where
  ne_nil : word ≠ []
  unbroken : ∀ c ∈ word, isBlank c = false

theorem wordsAfter_append {run : List Char} (h : ∀ c ∈ run, isBlank c = false)
    (pending rest : List Char) :
    wordsAfter pending (run ++ rest) = wordsAfter (run.reverse ++ pending) rest := by
  induction run generalizing pending with
  | nil => rfl
  | cons c cs ih =>
      obtain ⟨hc, hcs⟩ := List.forall_mem_cons.mp h
      rw [List.cons_append, wordsAfter, hc, if_neg Bool.false_ne_true, ih hcs]
      simp

theorem IsRun.words_eq {word : List Char} (h : IsRun word) : words word = [word] := by
  have ha := wordsAfter_append h.unbroken [] []
  rw [List.append_nil, List.append_nil] at ha
  rw [words, ha, wordsAfter, flush, List.reverse_reverse, if_neg]
  simpa using h.ne_nil

/-- White space ends a word, whatever comes before it and after it. -/
theorem wordsAfter_blank {b : Char} (hb : isBlank b = true) (pending text rest : List Char) :
    wordsAfter pending (text ++ b :: rest) = wordsAfter pending text ++ words rest := by
  induction text generalizing pending with
  | nil => simp only [List.nil_append, wordsAfter, hb, if_true, words]
  | cons c cs ih =>
      simp only [List.cons_append, wordsAfter]
      split
      · rw [ih, List.append_assoc]
      · exact ih _

theorem words_intercalate (texts : List (List Char)) :
    words ([' '].intercalate texts) = texts.flatMap words := by
  induction texts with
  | nil => rfl
  | cons text rest ih =>
      cases rest with
      | nil => simp
      | cons next rest =>
          have hb : isBlank ' ' = true := by decide
          rw [List.intercalate_cons_cons, List.append_assoc, List.singleton_append, words,
            wordsAfter_blank hb, ih]
          rfl

theorem flush_isRun {pending word : List Char} (hp : ∀ c ∈ pending, isBlank c = false)
    (h : word ∈ flush pending) : IsRun word := by
  unfold flush at h
  split at h
  · simp at h
  · rename_i hn
    obtain rfl := List.mem_singleton.mp h
    exact ⟨by simpa using hn, fun c hc => hp c (List.mem_reverse.mp hc)⟩

theorem wordsAfter_isRun {pending text word : List Char} (hp : ∀ c ∈ pending, isBlank c = false)
    (h : word ∈ wordsAfter pending text) : IsRun word := by
  induction text generalizing pending with
  | nil => exact flush_isRun hp h
  | cons c cs ih =>
      rw [wordsAfter] at h
      split at h
      · rcases List.mem_append.mp h with h | h
        · exact flush_isRun hp h
        · exact ih (by simp) h
      · rename_i hc
        exact ih (List.forall_mem_cons.mpr ⟨by simpa using hc, hp⟩) h

theorem words_isRun {text word : List Char} (h : word ∈ words text) : IsRun word :=
  wordsAfter_isRun (by simp) h

/-! ## Identifiers -/

/-- An ASCII letter or an underscore, then ASCII letters, digits and underscores. -/
def IsIdentifier (text : List Char) : Prop :=
  ∃ c rest, text = c :: rest ∧ (c.isAlpha = true ∨ c = '_') ∧
    ∀ d ∈ rest, d.isAlphanum = true ∨ d = '_'

theorem isIdentifier_iff {text : List Char} : isIdentifier text = true ↔ IsIdentifier text := by
  cases text with
  | nil => simp [isIdentifier, IsIdentifier]
  | cons c rest =>
      simp only [isIdentifier, isWordChar, Bool.and_eq_true, Bool.or_eq_true, beq_iff_eq,
        List.all_eq_true]
      constructor
      · rintro ⟨hc, hr⟩
        exact ⟨c, rest, rfl, hc, hr⟩
      · rintro ⟨_, _, he, hc, hr⟩
        cases he
        exact ⟨hc, hr⟩

theorem IsIdentifier.isWordChar {text : List Char} (h : IsIdentifier text) {d : Char}
    (hd : d ∈ text) : isWordChar d = true := by
  obtain ⟨c, rest, rfl, hc, hr⟩ := h
  rcases List.mem_cons.mp hd with rfl | hd
  · rcases hc with hc | rfl
    · simp [Text.isWordChar, Char.isAlphanum, hc]
    · decide
  · simpa [Text.isWordChar] using hr d hd

end Text

/-! ## Definitions -/

/-- A definition that a text can say. -/
structure Define.Textual (d : Define) : Prop where
  name : Text.IsIdentifier d.name.toList
  value : ∀ value, d.value? = some value → ∀ c ∈ value.toList, Text.isBlank c = false

theorem Define.textual_iff {d : Define} :
    d.Textual ↔ Text.isIdentifier d.name.toList = true ∧
      d.value?.all (fun value => value.toList.all (!Text.isBlank ·)) = true := by
  obtain ⟨name, value?⟩ := d
  constructor
  · rintro ⟨hn, hv⟩
    refine ⟨Text.isIdentifier_iff.mpr hn, ?_⟩
    cases value? with
    | none => rfl
    | some value =>
        refine List.all_eq_true.mpr fun c hc => ?_
        rw [hv value rfl c hc]
        rfl
  · rintro ⟨hn, hv⟩
    refine ⟨Text.isIdentifier_iff.mp hn, fun value h c hc => ?_⟩
    cases h
    exact (Bool.not_eq_true' _).mp (List.all_eq_true.mp hv c hc)

instance (d : Define) : Decidable d.Textual :=
  decidable_of_iff _ Define.textual_iff.symm

namespace Define

/-- What is written after `-D`. -/
def word (d : Define) : List Char :=
  match d.value? with
  | some value => d.name.toList ++ '=' :: value.toList
  | none => d.name.toList

theorem render_toList (d : Define) : d.render.toList = ['-', 'D'] ++ ' ' :: d.word := by
  obtain ⟨name, value?⟩ := d
  cases value? with
  | none => exact String.toList_append
  | some value =>
      show ("-D " ++ name ++ "=" ++ value).toList = _
      simp [word]

theorem Textual.word_isRun {d : Define} (h : d.Textual) : Text.IsRun d.word := by
  obtain ⟨name, value?⟩ := d
  obtain ⟨hn, hv⟩ := h
  have hb : ∀ c ∈ name.toList, Text.isBlank c = false := by
    intro c hc
    refine Bool.eq_false_iff.mpr fun hb => ?_
    exact Bool.false_ne_true ((Text.isWordChar_of_isBlank hb).symm.trans (hn.isWordChar hc))
  have hne : name.toList ≠ [] := by
    obtain ⟨c, rest, he, -⟩ := hn
    exact he ▸ List.cons_ne_nil c rest
  cases value? with
  | none => exact ⟨hne, hb⟩
  | some value =>
      refine ⟨List.append_ne_nil_of_left_ne_nil hne _, fun c hc => ?_⟩
      rcases List.mem_append.mp hc with hc | hc
      · exact hb c hc
      · rcases List.mem_cons.mp hc with rfl | hc
        · decide
        · exact hv value rfl c hc

theorem Textual.words_render {d : Define} (h : d.Textual) :
    Text.words d.render.toList = [['-', 'D'], d.word] := by
  have hb : Text.isBlank ' ' = true := by decide
  have hD : Text.words ['-', 'D'] = [['-', 'D']] := by decide
  rw [d.render_toList, Text.words, Text.wordsAfter_blank hb, ← Text.words, hD, h.word_isRun.words_eq]
  rfl

end Define

namespace BuildOptions

/-- A definition that was read has an identifier for its name, and is written as it was read. -/
theorem word_of_readDefine {text : List Char} {d : Define} (h : readDefine text = .ok d) :
    Text.IsIdentifier d.name.toList ∧ d.word = text := by
  have ht : text.takeWhile (· != '=') ++ text.dropWhile (· != '=') = text :=
    List.takeWhile_append_dropWhile
  unfold readDefine at h
  dsimp only at h
  split at h
  · rename_i hn
    rw [Text.isIdentifier_iff] at hn
    split at h
    · rename_i hd
      cases h
      rw [hd, List.append_nil] at ht
      simpa [Define.word, ht] using hn
    · rename_i c value hd
      cases h
      have hc : c = '=' := by
        have := List.head_dropWhile_not (· != '=') (by rw [hd]; exact List.cons_ne_nil _ _)
        simpa [hd] using this
      rw [hd, hc] at ht
      simpa [Define.word, ht] using hn
  · cases h

/-- The name ends at the first equals sign, for there is none in an identifier. -/
theorem readDefine_word {d : Define} (hn : Text.IsIdentifier d.name.toList) :
    readDefine d.word = .ok d := by
  obtain ⟨name, value?⟩ := d
  have hp : ∀ c ∈ name.toList, (c != '=') = true := by
    intro c hc
    refine bne_iff_ne.mpr fun he => ?_
    exact absurd (hn.isWordChar hc) (by rw [he]; decide)
  have hi : Text.isIdentifier name.toList = true := Text.isIdentifier_iff.mpr hn
  cases value? with
  | none =>
      have htake : name.toList.takeWhile (· != '=') = name.toList := by
        simpa using @List.takeWhile_append_of_pos _ _ _ [] hp
      have hdrop : name.toList.dropWhile (· != '=') = [] := by
        simpa using @List.dropWhile_append_of_pos _ _ _ [] hp
      simp [readDefine, Define.word, htake, hdrop, hi]
  | some value =>
      simp [readDefine, Define.word, List.takeWhile_append_of_pos hp,
        List.dropWhile_append_of_pos hp, hi]

/-! ## Flags -/

/-- A flag that is known, as one word. -/
structure IsFlag (flag : String) : Prop where
  known : isFlag flag.toList = true
  run : Text.IsRun flag.toList

/-- No flag begins like a definition. -/
theorem isFlag_define (rest : List Char) : isFlag ('-' :: 'D' :: rest) = false := by
  have he : standardFlag = ['-', 'c', 'l', '-', 's', 't', 'd', '='] := by decide +kernel
  have hs : standardFlag.isPrefixOf ('-' :: 'D' :: rest) = false := by rw [he]; rfl
  have hd : ∀ flag ∈ knownFlags, flag.toList[1]? ≠ some 'D' := by decide
  have hk : knownFlags.contains (String.ofList ('-' :: 'D' :: rest)) = false := by
    refine Bool.eq_false_iff.mpr fun hk => ?_
    exact hd _ (List.contains_iff_mem.mp hk) (by simp)
  rw [isFlag, hs, hk, Bool.or_false]

/-! ## Reading what was written -/

theorem addWords_define (o : BuildOptions) {d : Define} (h : Text.IsIdentifier d.name.toList)
    (rest : List (List Char)) :
    addWords o (['-', 'D'] :: d.word :: rest) =
      addWords { o with defines := o.defines ++ [d] } rest := by
  simp only [addWords, addDefine, readDefine_word h]
  rfl

/-- A word that does not begin like a definition is a flag, or refused. -/
theorem addWords_word (o : BuildOptions) {word : List Char}
    (hd : ∀ text, word ≠ '-' :: 'D' :: text) (rest : List (List Char)) :
    addWords o (word :: rest) =
      if isFlag word then addWords { o with flags := o.flags ++ [String.ofList word] } rest
      else .error (.unrecognized (String.ofList word)) := by
  rw [addWords.eq_def]
  split
  · rename_i he
    cases he
  · rename_i he
    exact absurd (List.cons.inj he).1 (hd _)
  · rename_i he
    exact absurd (List.cons.inj he).1 (hd _)
  · rename_i he
    exact absurd (List.cons.inj he).1 (hd _)
  · rename_i he
    cases he
    rfl

theorem addWords_flag (o : BuildOptions) {word : List Char} (h : isFlag word = true)
    (rest : List (List Char)) :
    addWords o (word :: rest) =
      addWords { o with flags := o.flags ++ [String.ofList word] } rest := by
  have hd : ∀ text, word ≠ '-' :: 'D' :: text := by
    rintro text rfl
    rw [isFlag_define] at h
    cases h
  rw [addWords_word o hd, if_pos h]

theorem addWords_flags (o : BuildOptions) {flags : List String} (h : ∀ f ∈ flags, IsFlag f) :
    addWords o (flags.map String.toList) = .ok { o with flags := o.flags ++ flags } := by
  induction flags generalizing o with
  | nil => simp [addWords]
  | cons flag rest ih =>
      obtain ⟨hf, hr⟩ := List.forall_mem_cons.mp h
      rw [List.map_cons, addWords_flag o hf.known, ih _ hr]
      simp

theorem addWords_defines (o : BuildOptions) {defines : List Define}
    (h : ∀ d ∈ defines, d.Textual) (rest : List (List Char)) :
    addWords o (defines.flatMap (fun d => [['-', 'D'], d.word]) ++ rest) =
      addWords { o with defines := o.defines ++ defines } rest := by
  induction defines generalizing o with
  | nil => simp
  | cons d ds ih =>
      obtain ⟨hd, hds⟩ := List.forall_mem_cons.mp h
      rw [List.flatMap_cons, List.append_assoc, List.cons_append, List.cons_append,
        List.nil_append, addWords_define o hd.name, ih _ hds]
      simp

/-- Options that a text can say. -/
structure Textual (o : BuildOptions) : Prop where
  fastPath : o.fastPath = false
  verbose : o.verbose = false
  defines : ∀ d ∈ o.defines, d.Textual

instance (o : BuildOptions) : Decidable o.Textual :=
  decidable_of_iff (o.fastPath = false ∧ o.verbose = false ∧ ∀ d ∈ o.defines, d.Textual)
    ⟨fun ⟨hf, hv, hd⟩ => ⟨hf, hv, hd⟩, fun ⟨hf, hv, hd⟩ => ⟨hf, hv, hd⟩⟩

variable {o : BuildOptions}

/-- A text is made of the words that its options are read from. -/
theorem words_render (hd : ∀ d ∈ o.defines, d.Textual) (hf : ∀ f ∈ o.flags, IsFlag f) :
    Text.words o.render.toList =
      o.defines.flatMap (fun d => [['-', 'D'], d.word]) ++ o.flags.map String.toList := by
  have hr : o.render.toList =
      [' '].intercalate (o.defines.map (·.render.toList) ++ o.flags.map String.toList) := by
    simp [render, Function.comp_def]
  have hds : o.defines.map (fun d => Text.words d.render.toList) =
      o.defines.map fun d => [['-', 'D'], d.word] :=
    List.map_congr_left fun d h => (hd d h).words_render
  have hfs : o.flags.map (fun f => Text.words f.toList) = o.flags.map fun f => [f.toList] :=
    List.map_congr_left fun f h => (hf f h).run.words_eq
  rw [hr, Text.words_intercalate, List.flatMap_append, List.flatMap_map, List.flatMap_map,
    List.flatMap_def, hds, List.flatMap_def, hfs, ← List.flatMap_def, ← List.flatMap_def,
    List.map_eq_flatMap]

theorem Textual.parse_render (h : o.Textual) (hf : ∀ f ∈ o.flags, IsFlag f) :
    parse o.render = .ok o := by
  rw [parse, words_render h.defines hf, addWords_defines _ h.defines, addWords_flags _ hf]
  obtain ⟨defines, flags, fastPath, verbose⟩ := o
  cases h.fastPath
  cases h.verbose
  simp

/-! ## What is read -/

theorem Textual.addDefine {o' : BuildOptions} {text : List Char} (ho : o.Textual)
    (ht : ∀ c ∈ text, Text.isBlank c = false) (h : o.addDefine text = .ok o') :
    o'.Textual ∧ o'.flags = o.flags := by
  unfold BuildOptions.addDefine at h
  cases hd : readDefine text with
  | error e => rw [hd] at h; cases h
  | ok d =>
      rw [hd] at h
      cases h
      obtain ⟨hn, rfl⟩ := word_of_readDefine hd
      refine ⟨⟨ho.fastPath, ho.verbose, fun d' hd' => ?_⟩, rfl⟩
      rcases List.mem_append.mp hd' with hd' | hd'
      · exact ho.defines d' hd'
      · obtain rfl := List.mem_singleton.mp hd'
        refine ⟨hn, fun value hv c hc => ht c ?_⟩
        rw [Define.word, hv]
        exact List.mem_append_right _ (List.mem_cons_of_mem _ hc)

theorem Textual.addWords {o' : BuildOptions} {words : List (List Char)}
    (hw : ∀ w ∈ words, Text.IsRun w) (ho : o.Textual) (hf : ∀ f ∈ o.flags, IsFlag f)
    (h : o.addWords words = .ok o') : o'.Textual ∧ ∀ f ∈ o'.flags, IsFlag f := by
  fun_induction BuildOptions.addWords o words with
  | case1 o => cases h; exact ⟨ho, hf⟩
  | case2 o => cases h
  | case3 o text rest ih =>
      obtain ⟨-, ht, hr⟩ := by simpa only [List.forall_mem_cons] using hw
      cases hd : o.addDefine text with
      | error e => rw [hd] at h; cases h
      | ok o₁ =>
          rw [hd] at h
          obtain ⟨ho₁, hf₁⟩ := ho.addDefine ht.unbroken hd
          exact ih o₁ hr ho₁ (hf₁ ▸ hf) h
  | case4 o text rest h1 h2 ih =>
      obtain ⟨ht, hr⟩ := List.forall_mem_cons.mp hw
      cases hd : o.addDefine text with
      | error e => rw [hd] at h; cases h
      | ok o₁ =>
          rw [hd] at h
          have hb : ∀ c ∈ text, Text.isBlank c = false := fun c hc =>
            ht.unbroken c (List.mem_cons_of_mem _ (List.mem_cons_of_mem _ hc))
          obtain ⟨ho₁, hf₁⟩ := ho.addDefine hb hd
          exact ih o₁ hr ho₁ (hf₁ ▸ hf) h
  | case5 o word rest h1 h2 h3 hk ih =>
      obtain ⟨hr, hrs⟩ := List.forall_mem_cons.mp hw
      refine ih hrs ⟨ho.fastPath, ho.verbose, ho.defines⟩ (fun f hm => ?_) h
      rcases List.mem_append.mp hm with hm | hm
      · exact hf f hm
      · obtain rfl := List.mem_singleton.mp hm
        exact ⟨by rwa [String.toList_ofList], by rwa [String.toList_ofList]⟩
  | case6 o word rest h1 h2 h3 hk => cases h

theorem parse_textual {text : String} (h : parse text = .ok o) :
    o.Textual ∧ ∀ f ∈ o.flags, IsFlag f :=
  Textual.addWords (fun _ hw => Text.words_isRun hw) ⟨rfl, rfl, by simp⟩ (by simp) h

/-! ## Round trip -/

/-- Options read from a text, with what callers set afterwards. -/
inductive Assembled : BuildOptions → Prop where
  | parsed {text : String} {o : BuildOptions} (read : parse text = .ok o) : Assembled o
  | define {o : BuildOptions} (name value : String) (assembled : Assembled o) :
      Assembled (o.define name value)
  | fastPath {o : BuildOptions} (on : Bool) (assembled : Assembled o) :
      Assembled (o.withFastPath on)
  | verbose {o : BuildOptions} (on : Bool) (assembled : Assembled o) :
      Assembled (o.withVerbose on)

/-- Only texts give flags. -/
theorem Assembled.flags (h : Assembled o) : ∀ f ∈ o.flags, IsFlag f := by
  induction h with
  | parsed read => exact (parse_textual read).2
  | define name value _ ih => exact ih
  | fastPath on _ ih => exact ih
  | verbose on _ ih => exact ih

/-- Options are read back from their own text exactly if a text can say them. What was read from a
text can be said by one. -/
theorem options_round_trip :
    (∀ o, Assembled o → (parse o.render = .ok o ↔ o.Textual)) ∧
      ∀ text o, parse text = .ok o → parse o.render = .ok o := by
  constructor
  · intro o h
    exact ⟨fun hr => (parse_textual hr).1, fun ht => ht.parse_render h.flags⟩
  · intro text o h
    obtain ⟨ht, hf⟩ := parse_textual h
    exact ht.parse_render hf

/-- Two spellings of a definition, one that is repeated, and flags of both kinds. A value with white
space in it is read as another flag. -/
theorem options_round_trip_tile :
    ∃ o, parse "-w -DTILE=16 -D USE_FMA -cl-std=CL2.0 -D TILE==8" = .ok o ∧
      parse o.render = .ok o ∧
      parse (o.define "SCALE" "0.5f").render = .ok (o.define "SCALE" "0.5f") ∧
      parse (o.define "SCALE" "1 -w").render ≠ .ok (o.define "SCALE" "1 -w") := by
  let tile : BuildOptions :=
    { defines := [⟨"TILE", some "16"⟩, ⟨"USE_FMA", none⟩, ⟨"TILE", some "=8"⟩]
      flags := ["-w", "-cl-std=CL2.0"] }
  have hp : parse "-w -DTILE=16 -D USE_FMA -cl-std=CL2.0 -D TILE==8" = .ok tile := by rfl
  obtain ⟨assembled, parsed⟩ := options_round_trip
  refine ⟨tile, hp, parsed _ _ hp, ?_, fun he => ?_⟩
  · exact (assembled _ (.define _ _ (.parsed hp))).mpr (by decide +kernel)
  · have ht := (assembled _ (.define _ _ (.parsed hp))).mp he
    exact absurd ht (by decide +kernel)

end BuildOptions

end Offload
