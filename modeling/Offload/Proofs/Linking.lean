import Offload.Source.Linker

/-!
# Linked names

The names that a source text declares are words, and what is linked to them is what was found under
them. No name is linked twice.
-/

namespace Offload.Source

/-! ## Words -/

/-- One word character after another, and at least one. -/
def IsWord (text : List Char) : Prop :=
  text ≠ [] ∧ ∀ c ∈ text, Text.isWordChar c = true

theorem IsWord.no_lineFeed {text : List Char} (h : IsWord text) : '\n' ∉ text := by
  intro hc
  exact absurd (h.2 _ hc) (by decide)

theorem IsWord.no_return {text : List Char} (h : IsWord text) : '\r' ∉ text := by
  intro hc
  exact absurd (h.2 _ hc) (by decide)

theorem flushWord_isWord {line : Nat} {pending : List Char} {t : Located Token} {word : List Char}
    (hp : ∀ c ∈ pending, Text.isWordChar c = true) (ht : t ∈ flushWord line pending)
    (hv : t.value = .word word) : IsWord word := by
  unfold flushWord at ht
  split at ht
  · cases ht
  · rename_i hne
    cases List.mem_singleton.mp ht
    cases hv
    refine ⟨by simpa using hne, fun c hc => hp c ?_⟩
    simpa using hc

theorem tokensAfter_isWord {line : Nat} {pending text : List Char} {t : Located Token}
    {word : List Char} (hp : ∀ c ∈ pending, Text.isWordChar c = true)
    (ht : t ∈ tokensAfter line pending text) (hv : t.value = .word word) : IsWord word := by
  -- Both the line and the pending word go on, and the pending word stays one of word characters.
  induction text generalizing line pending with
  | nil => exact flushWord_isWord hp ht hv
  | cons c rest ih =>
      have hnone : ∀ c ∈ ([] : List Char), Text.isWordChar c = true := by simp
      unfold tokensAfter at ht
      by_cases hc : Text.isWordChar c = true
      · rw [if_pos hc] at ht
        exact ih (List.forall_mem_cons.mpr ⟨hc, hp⟩) ht
      · rw [if_neg hc] at ht
        rcases List.mem_append.mp ht with ht | ht
        · exact flushWord_isWord hp ht hv
        · split at ht
          · exact ih hnone ht
          · split at ht
            · exact ih hnone ht
            · rcases List.mem_cons.mp ht with rfl | ht
              · cases hv
              · exact ih hnone ht

theorem declaration?_mem {ts : List (Located Token)} {d : Located String}
    (h : declaration? ts = some d) :
    ∃ t ∈ ts, ∃ word, t.value = .word word ∧ d.value = String.ofList word := by
  unfold declaration? at h
  split at h
  · rename_i line qualifier l₁ type l₂ name l₃ rest
    split at h
    · cases h
      exact ⟨⟨l₂, .word name⟩, by simp, name, rfl, rfl⟩
    · cases h
  · cases h

theorem declarations_mem {ts : List (Located Token)} {d : Located String}
    (h : d ∈ declarations ts) :
    ∃ t ∈ ts, ∃ word, t.value = .word word ∧ d.value = String.ofList word := by
  induction ts with
  | nil => cases h
  | cons t rest ih =>
      rcases List.mem_append.mp h with h | h
      · exact declaration?_mem (Option.mem_toList.mp h)
      · obtain ⟨u, hu, hd⟩ := ih h
        exact ⟨u, List.mem_cons_of_mem _ hu, hd⟩

/-- A declared name is a word. -/
theorem declared_isWord {text : List Char} {d : Located String} (h : d ∈ declared text) :
    IsWord d.value.toList := by
  obtain ⟨t, ht, word, hw, hd⟩ := declarations_mem h
  rw [hd, String.toList_ofList]
  exact tokensAfter_isWord (by simp) ht hw

/-! ## Links -/

variable {κ : Type}

/-- Names are linked once, to what is found under them. -/
structure Links (find? : String → Option κ) (kernels : List (String × κ)) : Prop where
  distinct : (kernels.map (·.1)).Nodup
  found : ∀ entry ∈ kernels, find? entry.1 = some entry.2

namespace Links

variable {find? : String → Option κ} {kernels : List (String × κ)} {name : String}

theorem nil : Links find? [] := ⟨.nil, by simp⟩

theorem append (h : Links find? kernels) {kernel : κ} (hn : kernels.lookup name = none)
    (hk : find? name = some kernel) : Links find? (kernels ++ [(name, kernel)]) where
  distinct := by
    rw [List.map_append, List.nodup_append]
    refine ⟨h.distinct, by simp, ?_⟩
    intro other ho name' hn'
    obtain ⟨entry, he, rfl⟩ := List.mem_map.mp ho
    cases List.mem_singleton.mp hn'
    have hne := List.lookup_eq_none_iff.mp hn entry he
    exact fun heq => by simp [heq] at hne
  found := by
    intro entry he
    rcases List.mem_append.mp he with he | he
    · exact h.found entry he
    · cases List.mem_singleton.mp he; exact hk

theorem found_of_lookup (h : Links find? kernels) {kernel : κ}
    (hk : kernels.lookup name = some kernel) : find? name = some kernel := by
  obtain ⟨before, after, rfl, _⟩ := List.lookup_eq_some_iff.mp hk
  exact h.found (name, kernel) (by simp)

end Links

variable {find? : String → Option κ}

/-- Linking a declaration links its name, if it is new and something is found under it. -/
theorem Linked.declare_kernels (find? : String → Option κ) (l : Linked κ) (d : Located String) :
    (declare find? l d).kernels = l.kernels ∨ ∃ kernel, l.kernels.lookup d.value = none ∧
      find? d.value = some kernel ∧
      (declare find? l d).kernels = l.kernels ++ [(d.value, kernel)] := by
  unfold declare
  split
  · exact .inl rfl
  · rename_i hnew
    split
    · rename_i kernel hk
      exact .inr ⟨kernel, Option.not_isSome_iff_eq_none.mp hnew, hk, rfl⟩
    · exact .inl rfl

theorem Links.declare {l : Linked κ} (h : Links find? l.kernels) (d : Located String) :
    Links find? (l.declare find? d).kernels := by
  rcases l.declare_kernels find? d with hd | ⟨kernel, hn, hk, hd⟩
  · rw [hd]; exact h
  · rw [hd]; exact h.append hn hk

theorem foldl_declare_links {ds : List (Located String)} {l : Linked κ}
    (h : Links find? l.kernels) : Links find? (ds.foldl (Linked.declare find?) l).kernels := by
  induction ds generalizing l with
  | nil => exact h
  | cons d rest ih => exact ih (h.declare d)

theorem foldl_declare_names {ds : List (Located String)} {l : Linked κ} {entry : String × κ}
    (h : entry ∈ (ds.foldl (Linked.declare find?) l).kernels) :
    entry ∈ l.kernels ∨ ∃ d ∈ ds, d.value = entry.1 := by
  induction ds generalizing l with
  | nil => exact .inl h
  | cons d rest ih =>
      rcases ih h with he | ⟨d', hd', he⟩
      · rcases l.declare_kernels find? d with hd | ⟨kernel, _, _, hd⟩
        · rw [hd] at he; exact .inl he
        · rw [hd] at he
          rcases List.mem_append.mp he with he | he
          · exact .inl he
          · cases List.mem_singleton.mp he; exact .inr ⟨d, by simp, rfl⟩
      · exact .inr ⟨d', List.mem_cons_of_mem _ hd', he⟩

theorem link_links (flags : List String) (text : List Char) :
    Links find? (link find? flags text).kernels :=
  foldl_declare_links .nil

/-- A linked name is a word. -/
theorem link_isWord {flags : List String} {text : List Char} {entry : String × κ}
    (h : entry ∈ (link find? flags text).kernels) : IsWord entry.1.toList := by
  rcases foldl_declare_names h with h | ⟨d, hd, he⟩
  · cases h
  · rw [← he]; exact declared_isWord hd

end Offload.Source
