import Offload.Proofs.Acceptance

/-!
# What loads as a manifest

The bytes of a manifest, line by line, and the module that its lines stand for. Main statement: bytes
load exactly if they are a header line and lines with names of the context.
-/

namespace Offload

/-! ## Bytes and lines -/

namespace Text

theorem ofBytes?_eq_some_iff {bytes : List UInt8} {s : String} :
    ofBytes? bytes = some s ↔ bytes = toBytes s := by
  constructor
  · intro h
    unfold ofBytes? String.fromUTF8? at h
    split at h
    · cases h
      rfl
    · cases h
  · rintro rfl
    exact ofBytes?_toBytes s

/-- The lines of a text. Each ends in a line feed or in a carriage return and a line feed, the last
one optionally. -/
inductive HasLines : List Char → List (List Char) → Prop where
  | nil : HasLines [] []
  | last {line : List Char} : line ≠ [] → '\n' ∉ line → HasLines line [line]
  | lineFeed {line rest : List Char} {lines : List (List Char)} : '\n' ∉ line →
      line.getLast? ≠ some '\r' → HasLines rest lines →
      HasLines (line ++ '\n' :: rest) (line :: lines)
  | returnLineFeed {line rest : List Char} {lines : List (List Char)} : '\n' ∉ line →
      HasLines rest lines → HasLines (line ++ '\r' :: '\n' :: rest) (line :: lines)

theorem dropReturn_of_getLast? {line : List Char} (h : line.getLast? ≠ some '\r') :
    dropReturn line.reverse = line := by
  unfold dropReturn
  split
  · rename_i rest hr
    rw [← List.head?_reverse, hr] at h
    exact absurd rfl h
  · exact List.reverse_reverse line

theorem HasLines.lines_eq {text : List Char} {ls : List (List Char)} (h : HasLines text ls) :
    lines text = ls := by
  induction h with
  | nil => rfl
  | last hne hn => exact lines_last hne hn
  | lineFeed hn hr _ ih => rw [lines_lineFeed hn, dropReturn_of_getLast? hr, ih]
  | @returnLineFeed line rest ls hn _ ih =>
      have hn' : '\n' ∉ line ++ ['\r'] := by simpa using hn
      rw [List.append_cons, lines_lineFeed hn', ih, List.reverse_append]
      simp [dropReturn]

theorem exists_hasLines (text : List Char) : ∃ ls, HasLines text ls := by
  induction hn : text.length using Nat.strongRecOn generalizing text with
  | _ n ih =>
      subst hn
      by_cases hl : '\n' ∈ text
      · obtain ⟨line, rest, rfl, hline⟩ := List.eq_append_cons_of_mem hl
        obtain ⟨ls, hls⟩ := ih _ (by simp; omega) rest rfl
        by_cases hr : line.getLast? = some '\r'
        · obtain ⟨line, rfl⟩ := List.getLast?_eq_some_iff.mp hr
          rw [List.append_assoc]
          exact ⟨_, .returnLineFeed (fun h => hline (List.mem_append_left _ h)) hls⟩
        · exact ⟨_, .lineFeed hline hr hls⟩
      · cases text with
        | nil => exact ⟨_, .nil⟩
        | cons c rest => exact ⟨_, .last (List.cons_ne_nil c rest) hl⟩

theorem lines_eq_iff {text : List Char} {ls : List (List Char)} :
    lines text = ls ↔ HasLines text ls := by
  constructor
  · rintro rfl
    obtain ⟨ls, hls⟩ := exists_hasLines text
    exact hls.lines_eq ▸ hls
  · exact HasLines.lines_eq

end Text

namespace Cpu

namespace Manifest

/-- The bytes are the text of a manifest: a line with the header, and a line for each of `names`. -/
def Lists (bytes : List UInt8) (names : List String) : Prop :=
  ∃ text, bytes = Text.toBytes text ∧
    Text.HasLines text.toList (header.toList :: names.map String.toList)

theorem parse?_eq_some_iff {text : String} {names : List String} :
    parse? text = some names ↔
      Text.HasLines text.toList (header.toList :: names.map String.toList) := by
  rw [← Text.lines_eq_iff]
  unfold parse?
  constructor
  · intro h
    split at h
    · cases h
    · rename_i first rest hl
      split at h
      · rename_i hf
        cases h
        rw [hl, ← hf]
        simp
      · cases h
  · intro h
    rw [h]
    simp

theorem lists_iff {bytes : List UInt8} {names : List String} :
    (Text.ofBytes? bytes).bind parse? = some names ↔ Lists bytes names := by
  unfold Lists
  simp only [Option.bind_eq_some_iff, Text.ofBytes?_eq_some_iff, parse?_eq_some_iff]

/-! ## Linking -/

variable {registry : Registry} {options : BuildOptions}

/-- The module has the kernels of `names`, each once, with what is registered under its name. -/
structure Holds (registry : Registry) (options : BuildOptions) (loaded : LoadedModule)
    (names : List String) : Prop where
  names : loaded.kernels.map (·.1) = names.eraseDups
  registered : ∀ entry ∈ loaded.kernels, ∃ code,
    registry.find? entry.1 = some code ∧ entry.2 = ⟨entry.1, code, options⟩

namespace Holds

variable {loaded : LoadedModule} {names : List String} {name : String} {code : Implementation}

theorem nil : Holds registry options {} [] :=
  ⟨rfl, by simp⟩

theorem isSome_iff (h : Holds registry options loaded names) :
    (loaded.find? name).isSome ↔ name ∈ names := by
  rw [← List.mem_eraseDups, ← h.names, LoadedModule.find?, List.lookup_isSome_iff, List.mem_map]
  exact exists_congr fun entry => and_congr_right fun _ => beq_iff_eq.trans eq_comm

theorem insert (h : Holds registry options loaded names) (hc : registry.find? name = some code) :
    Holds registry options (loaded.insert ⟨name, code, options⟩) (names ++ [name]) := by
  unfold LoadedModule.insert
  by_cases hn : name ∈ names
  · rw [if_pos (h.isSome_iff.mpr hn)]
    exact ⟨by rw [Source.eraseDups_append_singleton, if_pos hn, h.names], h.registered⟩
  · rw [if_neg (mt h.isSome_iff.mp hn)]
    constructor
    · rw [Source.eraseDups_append_singleton, if_neg hn, ← h.names, List.map_append]
      rfl
    · intro entry he
      rcases List.mem_append.mp he with he | he
      · exact h.registered entry he
      · cases List.mem_singleton.mp he
        exact ⟨code, hc, rfl⟩

theorem find?_eq (h : Holds registry options loaded names) (name : String) :
    loaded.find? name =
      if name ∈ names then (registry.find? name).map (⟨name, ·, options⟩) else none := by
  by_cases hn : name ∈ names
  · obtain ⟨e, he⟩ := Option.isSome_iff_exists.mp (h.isSome_iff.mpr hn)
    obtain ⟨before, after, hk, _⟩ := List.lookup_eq_some_iff.mp he
    obtain ⟨code, hc, rfl⟩ : ∃ code, registry.find? name = some code ∧ e = ⟨name, code, options⟩ :=
      h.registered (name, e) (by rw [hk]; simp)
    rw [if_pos hn, he, hc]
    rfl
  · rw [if_neg hn]
    exact Option.not_isSome_iff_eq_none.mp (mt h.isSome_iff.mp hn)

theorem size_eq (h : Holds registry options loaded names) :
    loaded.size = names.eraseDups.length := by
  rw [← h.names, List.length_map]
  rfl

end Holds

/-- Linking more names adds them to the module, if they are all registered. -/
theorem foldlM_holds (options : BuildOptions) {loaded : LoadedModule}
    {before names : List String} (h : Holds registry options loaded before)
    (hn : ∀ name ∈ names, (registry.find? name).isSome) :
    ∃ loaded', names.foldlM (fun loaded name => do
        let code ← registry.find? name
        return loaded.insert ⟨name, code, options⟩) loaded = some loaded' ∧
      Holds registry options loaded' (before ++ names) := by
  induction names generalizing loaded before with
  | nil => exact ⟨loaded, rfl, by rw [List.append_nil]; exact h⟩
  | cons name rest ih =>
      obtain ⟨code, hc⟩ := Option.isSome_iff_exists.mp (hn name List.mem_cons_self)
      obtain ⟨loaded', hl, hh⟩ :=
        ih (h.insert hc) fun other ho => hn other (List.mem_cons_of_mem _ ho)
      refine ⟨loaded', ?_, by rwa [List.append_assoc] at hh⟩
      rw [List.foldlM_cons, hc]
      exact hl

theorem registered_of_foldlM {loaded loaded' : LoadedModule} {names : List String}
    (h : names.foldlM (fun loaded name => do
        let code ← registry.find? name
        return loaded.insert ⟨name, code, options⟩) loaded = some loaded') :
    ∀ name ∈ names, (registry.find? name).isSome := by
  induction names generalizing loaded with
  | nil => simp
  | cons name rest ih =>
      rw [List.foldlM_cons] at h
      cases hc : registry.find? name with
      | none =>
          rw [hc] at h
          cases h
      | some code =>
          rw [hc] at h
          rw [List.forall_mem_cons, hc]
          exact ⟨rfl, ih h⟩

end Manifest

/-! ## Loading -/

variable (context : Context) (bytes : List UInt8) (options : BuildOptions)

theorem load_eq_ok_iff {loaded : LoadedModule} : load context bytes options = .ok loaded ↔
    ∃ names, Manifest.Lists bytes names ∧
      Manifest.link? context.registry options names = some loaded := by
  simp only [← Manifest.lists_iff, ← Option.bind_eq_some_iff, Option.bind_assoc]
  unfold load
  simp only [Option.bind_eq_bind]
  split
  · rename_i loaded' hl
    rw [hl, Except.ok.injEq, Option.some.injEq]
  · rename_i hl
    simp [hl]

theorem load_cases : (∃ loaded, load context bytes options = .ok loaded) ∨
    load context bytes options = .error .invalidBinary := by
  unfold load
  simp only
  split
  · exact .inl ⟨_, rfl⟩
  · exact .inr rfl

/-- The bytes are a manifest of `names`, and all of them are registered in the context. -/
def Context.Offers (context : Context) (bytes : List UInt8) (names : List String) : Prop :=
  Manifest.Lists bytes names ∧ ∀ name ∈ names, (context.registry.find? name).isSome

theorem load_ok_iff : (∃ loaded, load context bytes options = .ok loaded) ↔
    ∃ names, context.Offers bytes names := by
  simp only [load_eq_ok_iff]
  constructor
  · rintro ⟨loaded, names, hb, hl⟩
    exact ⟨names, hb, Manifest.registered_of_foldlM hl⟩
  · rintro ⟨names, hb, hn⟩
    obtain ⟨loaded, hl, _⟩ := Manifest.foldlM_holds options .nil hn
    exact ⟨loaded, names, hb, hl⟩

theorem load_holds {loaded : LoadedModule} {names : List String}
    (hl : load context bytes options = .ok loaded) (hn : context.Offers bytes names) :
    Manifest.Holds context.registry options loaded names := by
  obtain ⟨names', hb, hl⟩ := (load_eq_ok_iff context bytes options).mp hl
  have hnames : names' = names := by
    have h := Manifest.lists_iff.mpr hb
    rw [Manifest.lists_iff.mpr hn.1] at h
    exact (Option.some.inj h).symm
  subst hnames
  obtain ⟨loaded', hl', hh⟩ := Manifest.foldlM_holds options .nil hn.2
  cases hl.symm.trans hl'
  exact hh

/-- What loads is the text of a manifest all of whose names are registered in the context. The
module has the kernels of these names, each once. All else is no binary. -/
theorem manifest_loads :
    ((∃ loaded, load context bytes options = .ok loaded) ↔
      ∃ names, context.Offers bytes names) ∧
    (∀ loaded names, load context bytes options = .ok loaded → context.Offers bytes names →
      loaded.size = names.eraseDups.length ∧
      ∀ name, loaded.find? name =
        if name ∈ names then (context.registry.find? name).map (⟨name, ·, options⟩) else none) ∧
    ((¬∃ names, context.Offers bytes names) →
      load context bytes options = .error .invalidBinary) := by
  refine ⟨load_ok_iff context bytes options, fun loaded names hl hn => ?_, fun hn => ?_⟩
  · have hh := load_holds context bytes options hl hn
    exact ⟨hh.size_eq, hh.find?_eq⟩
  · rw [← load_ok_iff context bytes options] at hn
    exact (load_cases context bytes options).resolve_left hn

example : (load ⟨0, {}, .ofList Builtin.all, usualCapacity⟩
      (Text.toBytes "DALRT-CPU-PROGRAM 1\r\nfill_f32\naxpy_f32\r\nfill_f32") {}).toOption.map
        (·.size) = some 2 := by
  decide +kernel

end Cpu

end Offload
