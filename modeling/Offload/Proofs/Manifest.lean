import Offload.Cpu.Program
import Offload.Proofs.Linking

/-!
# Manifests

A manifest that was rendered is read back as it was: as text, as lines, and as the kernels that its
names stand for in the same context.
-/

namespace Offload

/-! ## Bytes and lines -/

namespace Text

theorem ofBytes?_toBytes (s : String) : ofBytes? (toBytes s) = some s := by
  have hb : (⟨s.toUTF8.data.toList.toArray⟩ : ByteArray) = s.toUTF8 := by
    rw [Array.toArray_toList]
  unfold ofBytes? toBytes
  rw [hb]
  unfold String.fromUTF8?
  rw [String.toUTF8_eq_toByteArray, dif_pos s.isValidUTF8]
  rfl

/-- A line that is written as it is read: not empty, and without line ends of its own. -/
structure IsLine (line : List Char) : Prop where
  ne_nil : line ≠ []
  no_lineFeed : '\n' ∉ line
  no_return : '\r' ∉ line

theorem linesAfter_append {line : List Char} (h : '\n' ∉ line) (pending rest : List Char) :
    linesAfter pending (line ++ rest) = linesAfter (line.reverse ++ pending) rest := by
  induction line generalizing pending with
  | nil => rfl
  | cons c cs ih =>
      rw [List.mem_cons, not_or] at h
      rw [List.cons_append, linesAfter, if_neg (Ne.symm h.1), ih h.2]
      simp

theorem dropReturn_reverse {line : List Char} (h : '\r' ∉ line) :
    dropReturn line.reverse = line := by
  unfold dropReturn
  split
  · rename_i rest hr
    exact absurd (List.mem_reverse.mp (hr ▸ List.mem_cons_self)) h
  · exact List.reverse_reverse line

theorem lines_last {line : List Char} (h : line ≠ []) (hn : '\n' ∉ line) :
    lines line = [line] := by
  have ha := linesAfter_append hn [] []
  rw [List.append_nil, List.append_nil] at ha
  rw [lines, ha, linesAfter, flush, List.reverse_reverse, if_neg]
  simpa using h

theorem lines_lineFeed {line : List Char} (h : '\n' ∉ line) (rest : List Char) :
    lines (line ++ '\n' :: rest) = dropReturn line.reverse :: lines rest := by
  rw [lines, linesAfter_append h, linesAfter, if_pos rfl, List.append_nil]
  rfl

theorem lines_cons {line : List Char} (h : IsLine line) (rest : List Char) :
    lines (line ++ '\n' :: rest) = line :: lines rest := by
  rw [lines_lineFeed h.no_lineFeed, dropReturn_reverse h.no_return]

/-- Lines joined by line feeds are read back. -/
theorem lines_intercalate {first : String} {rest : List String}
    (h : ∀ line ∈ first :: rest, IsLine line.toList) :
    lines ("\n".intercalate (first :: rest)).toList = (first :: rest).map String.toList := by
  induction rest generalizing first with
  | nil =>
      rw [List.forall_mem_cons] at h
      simpa using lines_last h.1.ne_nil h.1.no_lineFeed
  | cons second rest ih =>
      rw [List.forall_mem_cons] at h
      have hl : ("\n".intercalate (first :: second :: rest)).toList =
          first.toList ++ '\n' :: ("\n".intercalate (second :: rest)).toList := by
        simp [String.intercalate_cons_cons]
      rw [hl, lines_cons h.1, ih h.2]
      rfl

end Text

theorem Source.IsWord.isLine {text : List Char} (h : IsWord text) : Text.IsLine text :=
  ⟨h.1, h.no_lineFeed, h.no_return⟩

namespace Cpu.Manifest

theorem header_isLine : Text.IsLine header.toList :=
  ⟨by decide, by decide, by decide⟩

theorem render_isLine {names : List String} (h : ∀ name ∈ names, Source.IsWord name.toList) :
    ∀ line ∈ header :: names, Text.IsLine line.toList :=
  List.forall_mem_cons.mpr ⟨header_isLine, fun name hn => (h name hn).isLine⟩

theorem parse?_render {names : List String} (h : ∀ name ∈ names, Source.IsWord name.toList) :
    parse? (render names) = some names := by
  unfold parse? render
  rw [Text.lines_intercalate (render_isLine h)]
  simp

theorem render_bytes_ne_nil {names : List String}
    (h : ∀ name ∈ names, Source.IsWord name.toList) : Text.toBytes (render names) ≠ [] := by
  intro hb
  have hs := Text.ofBytes?_toBytes (render names)
  rw [hb] at hs
  have hr : "" = render names := Option.some.inj hs
  have hp := parse?_render h
  rw [← hr] at hp
  cases hp

variable {registry : Registry} {kernels : List (String × Implementation)}

/-- What a module holds of linked kernels. -/
def loadedKernels (options : BuildOptions) (kernels : List (String × Implementation)) :
    List (String × Executable) :=
  kernels.map fun entry => (entry.1, ⟨entry.1, entry.2, options⟩)

theorem lookup_loadedKernels (options : BuildOptions) (kernels : List (String × Implementation))
    (name : String) : (loadedKernels options kernels).lookup name =
      (kernels.lookup name).map fun code => ⟨name, code, options⟩ := by
  induction kernels with
  | nil => rfl
  | cons entry rest ih =>
      obtain ⟨key, code⟩ := entry
      simp only [loadedKernels, List.map_cons, List.lookup_cons]
      cases hb : name == key with
      | true => rw [eq_of_beq hb]; rfl
      | false => exact ih

/-- Linking distinct names appends their kernels, one by one. -/
theorem foldlM_insert {options : BuildOptions} (loaded : LoadedModule)
    (hl : Source.Links registry.find? kernels)
    (hnew : ∀ entry ∈ kernels, loaded.find? entry.1 = none) :
    (kernels.map (·.1)).foldlM (fun loaded name => do
      let code ← registry.find? name
      return loaded.insert ⟨name, code, options⟩) loaded =
        some ⟨loaded.kernels ++ loadedKernels options kernels⟩ := by
  induction kernels generalizing loaded with
  | nil => simp [loadedKernels]
  | cons entry rest ih =>
      obtain ⟨distinct, found⟩ := hl
      rw [List.map_cons, List.nodup_cons] at distinct
      rw [List.forall_mem_cons] at found hnew
      have hi : loaded.insert ⟨entry.1, entry.2, options⟩ =
          ⟨loaded.kernels ++ [(entry.1, ⟨entry.1, entry.2, options⟩)]⟩ := by
        simp [LoadedModule.insert, hnew.1]
      -- The names that are left are new to the module, too, since they differ from this one.
      have hrest : ∀ e ∈ rest,
          (loaded.insert ⟨entry.1, entry.2, options⟩).find? e.1 = none := by
        intro e he
        have hne : e.1 ≠ entry.1 := fun h => distinct.1 (h ▸ List.mem_map_of_mem he)
        have hold : loaded.kernels.lookup e.1 = none := hnew.2 e he
        rw [hi, LoadedModule.find?, List.lookup_append, hold]
        simp [List.lookup_cons, beq_false_of_ne hne]
      rw [List.map_cons, List.foldlM_cons, found.1]
      show List.foldlM _ (loaded.insert ⟨entry.1, entry.2, options⟩) (rest.map (·.1)) = _
      rw [ih _ ⟨distinct.2, found.2⟩ hrest, hi]
      simp [loadedKernels]

theorem link?_names (options : BuildOptions) (h : Source.Links registry.find? kernels) :
    link? registry options (kernels.map (·.1)) = some ⟨loadedKernels options kernels⟩ :=
  foldlM_insert {} h fun _ _ => rfl

end Cpu.Manifest

namespace Cpu

/-- The binary of a program whose kernels are linked words loads in the context it was linked in. -/
theorem load_binary {context : Context} (p : ProgramObject)
    (hl : Source.Links context.registry.find? p.kernels)
    (hw : ∀ entry ∈ p.kernels, Source.IsWord entry.1.toList) (options : BuildOptions) :
    ∃ bytes, bytes ≠ [] ∧ binary (some p) = .ok bytes ∧
      load context bytes options = .ok ⟨Manifest.loadedKernels options p.kernels⟩ := by
  have hn : ∀ name ∈ p.kernelNames, Source.IsWord name.toList := by
    intro name hname
    obtain ⟨entry, he, rfl⟩ := List.mem_map.mp hname
    exact hw entry he
  refine ⟨_, Manifest.render_bytes_ne_nil hn, rfl, ?_⟩
  have hk : Manifest.link? context.registry options p.kernelNames = _ :=
    Manifest.link?_names options hl
  simp only [load, Text.ofBytes?_toBytes, Manifest.parse?_render hn, hk, Option.bind_eq_bind,
    Option.bind_some]

/-! ## Two ways to a kernel -/

theorem fastKernel_eq_ok {options : BuildOptions} {kernels : List (String × Implementation)}
    {name : String} {e : Executable} :
    fastKernel ⟨Manifest.loadedKernels options kernels⟩ name = .ok e ↔
      ∃ code, kernels.lookup name = some code ∧ e = ⟨name, code, options⟩ := by
  simp only [fastKernel, LoadedModule.find?, Manifest.lookup_loadedKernels]
  cases kernels.lookup name with
  | none => simp
  | some code => simp [eq_comm]

theorem createKernel_eq_ok {h : Handle} {p : ProgramObject} {name : String} {k : KernelObject} :
    createKernel (some (h, p)) name = .ok k ↔
      ∃ code, p.kernels.lookup name = some code ∧
        k = ⟨h, p.context, ⟨name, code, p.options⟩⟩ := by
  simp only [createKernel, ProgramObject.executable?]
  cases p.kernels.lookup name with
  | none => simp
  | some code => simp [eq_comm]

/-- A program and a module give the same kernels. -/
structure Agrees (registry : Registry) (program : Handle × ProgramObject) (loaded : LoadedModule) :
    Prop where
  distinct : program.2.kernelNames.Nodup
  names : ∀ name, (loaded.find? name).isSome = true ↔ name ∈ program.2.kernelNames
  size : loaded.size = program.2.kernelNames.length
  kernel : ∀ name,
    fastKernel loaded name = .error .invalidKernelName ∧
        createKernel (some program) name = .error .invalidKernelName ∨
      ∃ e k, fastKernel loaded name = .ok e ∧ createKernel (some program) name = .ok k ∧
        registry.find? name = some e.code ∧ registry.find? name = some k.executable.code ∧
        ∀ macroName, e.options.defineValue? macroName = k.executable.options.defineValue? macroName

theorem agrees_loadedKernels {registry : Registry} {h : Handle} {p : ProgramObject}
    {options : BuildOptions} (hl : Source.Links registry.find? p.kernels)
    (hd : options.defines = p.options.defines) :
    Agrees registry (h, p) ⟨Manifest.loadedKernels options p.kernels⟩ where
  distinct := hl.distinct
  names name := by
    rw [LoadedModule.find?, Manifest.lookup_loadedKernels, Option.isSome_map]
    simp [ProgramObject.kernelNames, List.lookup_isSome_iff]
  size := by simp [LoadedModule.size, Manifest.loadedKernels, ProgramObject.kernelNames]
  kernel name := by
    simp only [fastKernel, createKernel, LoadedModule.find?, ProgramObject.executable?,
      Manifest.lookup_loadedKernels]
    cases hk : p.kernels.lookup name with
    | none => exact .inl ⟨rfl, rfl⟩
    | some code =>
        refine .inr ⟨_, _, rfl, rfl, hl.found_of_lookup hk, hl.found_of_lookup hk, fun _ => ?_⟩
        simp only [BuildOptions.defineValue?, hd]

end Cpu

end Offload
