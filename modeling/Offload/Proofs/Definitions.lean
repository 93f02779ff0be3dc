import Mathlib.Data.List.Nodup
import Offload.Gpu.Program

/-!
# Definitions of GPU builds

A build puts a constant in front of its shader for each definition. Who asks for the value of a
definition is told that of the last one with its name. Both say the same if no name is defined
twice, and only then.
-/

namespace Offload

/-- If keys differ, a key finds the only element that has it. -/
theorem filter_eq_singleton {α β : Type} [DecidableEq β] {f : α → β} {l : List α} {a : α}
    (hn : (l.map f).Nodup) (ha : a ∈ l) : l.filter (fun x => f x == f a) = [a] := by
  induction l with
  | nil => cases ha
  | cons b rest ih =>
      obtain ⟨new, hn⟩ := List.nodup_cons.mp hn
      rcases List.mem_cons.mp ha with rfl | ha
      · have others : rest.filter (fun x => f x == f a) = [] := by
          refine List.filter_eq_nil_iff.mpr fun x hx hf => new ?_
          rw [← eq_of_beq hf]
          exact List.mem_map_of_mem hx
        rw [List.filter_cons, if_pos (beq_self_eq_true _), others]
      · have hb : ¬ (f b == f a) = true := by
          intro hf
          rw [eq_of_beq hf] at new
          exact new (List.mem_map_of_mem ha)
        rw [List.filter_cons, if_neg hb, ih hn ha]

/-- What is in front of a separator that is not in it can be told. -/
theorem append_separator_inj {α : Type} {c : α} {a a' r r' : List α} (ha : c ∉ a) (ha' : c ∉ a')
    (h : a ++ c :: r = a' ++ c :: r') : a = a' ∧ r = r' := by
  induction a generalizing a' with
  | nil =>
      cases a' with
      | nil => exact ⟨rfl, (List.cons.inj h).2⟩
      | cons x a' => exact absurd ((List.cons.inj h).1 ▸ List.mem_cons_self) ha'
  | cons x a ih =>
      cases a' with
      | nil => exact absurd ((List.cons.inj h).1 ▸ List.mem_cons_self) ha
      | cons y a' =>
          obtain ⟨first, others⟩ := List.cons.inj h
          rw [List.mem_cons, not_or] at ha ha'
          obtain ⟨tails, rests⟩ := ih ha.2 ha'.2 others
          exact ⟨by rw [first, tails], rests⟩

namespace Gpu

/-! ## Constants of a text -/

/-- The line `const name = value;`. -/
def constantLine (name value : List Char) : List Char :=
  ['c', 'o', 'n', 's', 't', ' '] ++ name ++ [' ', '=', ' '] ++ value ++ [';', '\n']

/-- A text is made of the lines of constants, each with its name and value. -/
inductive DeclaresAll : List (String × String) → List Char → Prop where
  | nil : DeclaresAll [] []
  | cons {name value constants text} (others : DeclaresAll constants text) :
      DeclaresAll ((name, value) :: constants) (constantLine name.toList value.toList ++ text)

/-- The end of the name and of the value can be told in their line. -/
structure IsPlain (name value : List Char) : Prop where
  name : ' ' ∉ name
  value : ';' ∉ value

/-- The lines of constants tell their names and values. -/
def ArePlain (constants : List (String × String)) : Prop :=
  ∀ c ∈ constants, IsPlain c.1.toList c.2.toList

namespace DeclaresAll

variable {constants constants' : List (String × String)} {text : List Char}

theorem constantLine_append (name value rest : List Char) :
    constantLine name value ++ rest = ['c', 'o', 'n', 's', 't'] ++ ' ' ::
      (name ++ ' ' :: '=' :: ' ' :: (value ++ ';' :: '\n' :: rest)) := by
  simp [constantLine]

theorem constantLine_inj {name name' value value' rest rest' : List Char}
    (plain : IsPlain name value) (plain' : IsPlain name' value')
    (h : constantLine name value ++ rest = constantLine name' value' ++ rest') :
    name = name' ∧ value = value' ∧ rest = rest' := by
  rw [constantLine_append, constantLine_append] at h
  obtain ⟨names, valued⟩ := append_separator_inj plain.name plain'.name
    (List.cons.inj (List.append_cancel_left h)).2
  obtain ⟨values, ends⟩ := append_separator_inj plain.value plain'.value
    (List.cons.inj (List.cons.inj valued).2).2
  exact ⟨names, values, (List.cons.inj ends).2⟩

theorem constantLine_ne_nil (name value rest : List Char) :
    constantLine name value ++ rest ≠ [] := by
  simp [constantLine]

/-- Plain constants are read in one way. -/
theorem unique (h : DeclaresAll constants text) (h' : DeclaresAll constants' text)
    (plain : ArePlain constants) (plain' : ArePlain constants') : constants = constants' := by
  induction h generalizing constants' with
  | nil =>
      generalize ht : [] = text at h'
      cases h' with
      | nil => rfl
      | cons _ => exact absurd ht.symm (constantLine_ne_nil _ _ _)
  | @cons name value others rest _ ih =>
      generalize ht : constantLine name.toList value.toList ++ rest = text at h'
      cases h' with
      | nil => exact absurd ht (constantLine_ne_nil _ _ _)
      | @cons name' value' others' rest' h' =>
          obtain ⟨first, plain⟩ := List.forall_mem_cons.mp plain
          obtain ⟨first', others⟩ := List.forall_mem_cons.mp plain'
          obtain ⟨hn, hv, rfl⟩ := constantLine_inj first first' ht
          cases String.toList_inj.mp hn
          cases String.toList_inj.mp hv
          rw [ih h' plain others]

end DeclaresAll

/-! ## Constants of a build -/

/-- The constants of a build. -/
def constants (o : BuildOptions) : List (String × String) :=
  o.defines.map fun d => (d.name, d.value?.getD "true")

/-- A list of constants has a name once, with the value that a look-up of it gives. This is that of
its last definition, in place of which `true` stands if it has none. -/
inductive DeclaredOnce (o : BuildOptions) (constants : List (String × String)) (name : String) :
    Prop where
  | valued {value} (reported : o.defineValue? name = some value)
      (once : constants.filter (·.1 == name) = [(name, value)]) : DeclaredOnce o constants name
  | valueless (last : o.defines.reverse.find? (·.name == name) = some ⟨name, none⟩)
      (once : constants.filter (·.1 == name) = [(name, "true")]) : DeclaredOnce o constants name

variable {o : BuildOptions} {name : String}

theorem DeclaredOnce.length {cs : List (String × String)} (h : DeclaredOnce o cs name) :
    (cs.filter (·.1 == name)).length = 1 := by
  cases h with
  | valued _ once => rw [once]; rfl
  | valueless _ once => rw [once]; rfl

theorem names_constants (o : BuildOptions) :
    (constants o).map Prod.fst = o.defines.map (·.name) := by
  rw [constants, List.map_map]
  rfl

theorem toList_constantOf (d : Define) :
    (constantOf d).toList = constantLine d.name.toList (d.value?.getD "true").toList := by
  simp [constantOf, constantLine]

theorem declaresAll_definitions (o : BuildOptions) :
    DeclaresAll (constants o) (definitions o).toList := by
  rw [constants, definitions]
  induction o.defines with
  | nil => exact .nil
  | cons d rest ih =>
      rw [List.map_cons, List.map_cons, String.join_cons, String.toList_append, toList_constantOf]
      exact .cons ih

theorem exists_of_defineValue? (h : (o.defineValue? name).isSome) :
    ∃ d, o.defines.reverse.find? (·.name == name) = some d ∧ d ∈ o.defines ∧ d.name = name := by
  rw [BuildOptions.defineValue?, Option.isSome_map] at h
  obtain ⟨d, hd⟩ := Option.isSome_iff_exists.mp h
  have hn := List.find?_some hd
  exact ⟨d, hd, List.mem_reverse.mp (List.mem_of_find?_eq_some hd), eq_of_beq hn⟩

theorem declaredOnce_of_nodup (hn : (o.defines.map (·.name)).Nodup)
    (h : (o.defineValue? name).isSome) : DeclaredOnce o (constants o) name := by
  obtain ⟨d, hd, hm, rfl⟩ := exists_of_defineValue? h
  have hv : o.defineValue? d.name = some (d.value?.getD "") := by
    rw [BuildOptions.defineValue?, hd, Option.map_some]
  have once : (constants o).filter (·.1 == d.name) = [(d.name, d.value?.getD "true")] := by
    rw [← names_constants] at hn
    exact filter_eq_singleton hn (List.mem_map_of_mem hm)
  obtain ⟨name, value?⟩ := d
  cases value? with
  | none => exact .valueless hd once
  | some value => exact .valued hv once

theorem nodup_of_declaredOnce
    (h : ∀ name, (o.defineValue? name).isSome → DeclaredOnce o (constants o) name) :
    (o.defines.map (·.name)).Nodup := by
  rw [List.nodup_iff_count_eq_one]
  intro name hn
  have hd : (o.defineValue? name).isSome := by
    obtain ⟨d, hm, rfl⟩ := List.mem_map.mp hn
    rw [BuildOptions.defineValue?, Option.isSome_map, List.find?_isSome]
    exact ⟨d, List.mem_reverse.mpr hm, beq_self_eq_true _⟩
  rw [← names_constants, List.count_eq_countP, List.countP_map, List.countP_eq_length_filter]
  exact (h name hd).length

/-- The text in front of a shader has a constant for each definition of its build, in order, and
where their lines can be told apart it is read in no other way. A name that a look-up finds is
declared once in it, with the value that is found, if no name is defined twice, and only then. -/
theorem definitions_agree_iff (o : BuildOptions) :
    DeclaresAll (constants o) (definitions o).toList ∧
    (ArePlain (constants o) →
      ∀ cs, ArePlain cs → DeclaresAll cs (definitions o).toList → cs = constants o) ∧
    ((∀ name, (o.defineValue? name).isSome → DeclaredOnce o (constants o) name) ↔
      (o.defines.map (·.name)).Nodup) :=
  ⟨declaresAll_definitions o, fun plain _ hp hc => hc.unique (declaresAll_definitions o) hp plain,
    nodup_of_declaredOnce, fun hn _ => declaredOnce_of_nodup hn⟩

/-- Defines a name twice. -/
def twice : BuildOptions := { defines := [⟨"A", some "1"⟩, ⟨"A", some "2"⟩] }

theorem twice_plain : ArePlain (constants twice) := by
  rintro c (_ | ⟨_, _ | ⟨_, ⟨⟩⟩⟩)
  · exact ⟨by decide, by decide⟩
  · exact ⟨by decide, by decide⟩

theorem definitions_agree_iff_twice :
    ¬ (∀ name, (twice.defineValue? name).isSome → DeclaredOnce twice (constants twice) name) ∧
      ∀ cs, ArePlain cs → DeclaresAll cs (definitions twice).toList →
        cs = [("A", "1"), ("A", "2")] := by
  obtain ⟨-, unique, agree⟩ := definitions_agree_iff twice
  have repeated : ¬ (twice.defines.map (·.name)).Nodup := by decide
  exact ⟨(not_congr agree).mpr repeated, unique twice_plain⟩

/-- A look-up finds the second value, as if there was no first one, but both are declared. -/
theorem repeated_definition_declared :
    BuildOptions.parse "-D A=1 -D A=2" = .ok twice ∧ twice.defineValue? "A" = some "2" ∧
      definitions twice = "const A = 1;\nconst A = 2;\n" ∧
      ∀ cs, ArePlain cs → DeclaresAll cs (definitions twice).toList →
        cs.filter (·.1 == "A") = [("A", "1"), ("A", "2")] ∧ ¬ DeclaredOnce twice cs "A" := by
  refine ⟨by decide +kernel, rfl, rfl, fun cs plain declared => ?_⟩
  obtain rfl := declared.unique (declaresAll_definitions twice) plain twice_plain
  exact ⟨rfl, fun once => absurd once.length (by decide)⟩

end Gpu

end Offload
