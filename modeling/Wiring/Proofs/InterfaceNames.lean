import Wiring.Proofs.DecimalDigits
import Wiring.Proofs.FilesApart
import Wiring.Proofs.ProvisionsPass

/-!
# Names of the interfaces in a file

The interfaces of a file have names that begin with the name of the file and have ends of their own:
numbers, if the file is one of provisions, and the suffixes of the two roles, if members of a class
are injected. Numbers tell interfaces apart, but nothing keeps the two suffixes from being the same.

* `Kotlin.SourceFile.writtenNames`, `Kotlin.escape_inj_of_head?`: names as they stand in a text;
* `Suffixes.Ends`, `Generator.exists_endsOf`: the ends of the names in a file;
* `Settings.validate_sameRoles`: one suffix for both roles is accepted;
* **`declarations_nodup_iff`**: when the interfaces of a file have names of their own.
-/

namespace Wiring

open Kotlin

/-! ## Written names -/

namespace Kotlin

/-- The names of the interfaces of a file as they stand in its text. -/
def SourceFile.writtenNames (file : SourceFile) : List String :=
  file.interfaces.map fun i => escape i.name

theorem head?_ne_of_mem_hardKeywords : ∀ word ∈ hardKeywords, word.toList.head? ≠ some '`' := by
  decide

/-- A keyword is written with another first character. -/
theorem escape_ne_of_mem_hardKeywords {s t : String} (hs : s ∈ hardKeywords)
    (hhead : s.toList.head? = t.toList.head?) : escape s ≠ t := by
  intro h
  have hcontains : hardKeywords.contains s := List.contains_iff_mem.2 hs
  rw [escape, if_pos hcontains] at h
  have hback : t.toList.head? = some '`' := by
    rw [← h]
    simp
  exact head?_ne_of_mem_hardKeywords s hs (hhead.trans hback)

/-- Names with one first character are written differently, also if some of them are keywords. -/
theorem escape_inj_of_head? {s t : String} (hhead : s.toList.head? = t.toList.head?)
    (h : escape s = escape t) : s = t := by
  by_cases hs : s ∈ hardKeywords
  · by_cases ht : t ∈ hardKeywords
    · rw [escape, if_pos (List.contains_iff_mem.2 hs), escape,
        if_pos (List.contains_iff_mem.2 ht)] at h
      exact (String.append_right_inj _).1 ((String.append_left_inj _).1 h)
    · have hplain : escape t = t := if_neg (mt List.contains_iff_mem.1 ht)
      exact absurd (h.trans hplain) (escape_ne_of_mem_hardKeywords hs hhead)
  · have hplain : escape s = s := if_neg (mt List.contains_iff_mem.1 hs)
    by_cases ht : t ∈ hardKeywords
    · exact absurd (h.symm.trans hplain) (escape_ne_of_mem_hardKeywords ht hhead.symm)
    · exact hplain.symm.trans (h.trans (if_neg (mt List.contains_iff_mem.1 ht)))

end Kotlin

section

variable {base : String} {ends : List String}

theorem nodup_map_append_iff : (ends.map (base ++ ·)).Nodup ↔ ends.Nodup :=
  List.nodup_map_iff fun _ _ h => (String.append_right_inj base).1 h

theorem nodup_map_escape_append_iff (h : base ≠ "") :
    (ends.map fun last => escape (base ++ last)).Nodup ↔ ends.Nodup := by
  refine List.nodup_map_iff fun a b hab => ?_
  have hhead : ∀ last : String, (base ++ last).toList.head? = base.toList.head? := by
    intro last
    rw [String.toList_append]
    exact List.head?_append_of_ne_nil _ (mt String.toList_eq_nil_iff.1 h)
  exact (String.append_right_inj base).1
    (escape_inj_of_head? ((hhead a).trans (hhead b).symm) hab)

end

/-! ## The interfaces of a file -/

/-- Interfaces of provisions have distinct numbers in their names. -/
theorem names_provisionsInterfaces (base component : String) (index : Nat)
    (groups : List (QualifiedName × List Provision)) :
    (provisionsInterfaces base component index groups).map (·.name) =
      (List.range' index groups.length).map fun k => base ++ (Nat.repr k ++ component) := by
  rw [ClassDeclaration.provisionsInterfaces_eq, List.map_map, ← List.zipIdx_map_snd, List.map_map]
  refine List.map_congr_left fun entry _ => ?_
  exact String.append_assoc

/-- Numbers are told apart by the values of their digits. -/
theorem nodup_numbered (component : String) (index length : Nat) :
    ((List.range' index length).map fun k => Nat.repr k ++ component).Nodup := by
  refine List.Nodup.map (fun m n h => ?_) List.nodup_range'
  have hdigits : m.repr = n.repr := (String.append_left_inj component).1 h
  rw [← digitsValue_repr m, hdigits, digitsValue_repr n]

/-- What follows the name of a file in the names of its interfaces: nothing, numbers with the suffix
of components behind them, or the suffixes of the two roles. -/
inductive Suffixes.Ends (suffixes : Suffixes) : Generator → List String → Prop
  | bindings : Ends suffixes .bindings [""]
  | provisions (length : Nat) : Ends suffixes .provisions
      ((List.range' 0 length).map fun k => Nat.repr k ++ suffixes.component)
  | autoWire : Ends suffixes .autoWire [suffixes.module, suffixes.component]

/-- Ends are distinct, except for the two roles of injection. -/
theorem Suffixes.Ends.nodup_iff {suffixes : Suffixes} {generator : Generator} {ends : List String}
    (h : suffixes.Ends generator ends) :
    ends.Nodup ↔ (generator.name = Generator.autoWire.name →
      suffixes.module ≠ suffixes.component) := by
  cases h with
  | bindings =>
    have hother : Generator.bindings.name ≠ Generator.autoWire.name := by decide
    exact iff_of_true (List.pairwise_singleton _ _) (absurd · hother)
  | provisions length =>
    have hother : Generator.provisions.name ≠ Generator.autoWire.name := by decide
    exact iff_of_true (nodup_numbered suffixes.component 0 length) (absurd · hother)
  | autoWire => simp

/-- The names of the interfaces that a standard generator makes begin with the name of the file. -/
theorem Generator.exists_endsOf {generator : Generator} {c : ClassDeclaration} {context : Context}
    (hgenerator : generator ∈ builtin) {made : GeneratedFile}
    (h : generator.generate c context = .made made) :
    ∃ (source : SourceFile) (ends : List String), made = source.toGenerated ∧
      source.interfaces.map (·.name) =
        ends.map (c.generatedName (context.suffixes.ofGenerator generator) ++ ·) ∧
      context.suffixes.Ends generator ends := by
  rcases mem_builtin.1 hgenerator with rfl | rfl | rfl
  · obtain ⟨source, hsource, rfl⟩ := Outcome.ofResult_eq_made h
    obtain ⟨_, _, rfl⟩ := eq_bindingsFile hsource
    exact ⟨_, [""], rfl, by simp [bindingsFile, Suffixes.ofGenerator], .bindings⟩
  · obtain ⟨source, hsource, rfl⟩ := Outcome.ofResult_eq_made h
    obtain ⟨groups, rfl⟩ := eq_provisionsFile hsource
    refine ⟨_, _, rfl, ?_, .provisions groups.groups.length⟩
    rw [List.map_map]
    exact names_provisionsInterfaces _ _ _ _
  · obtain ⟨source, hsource, rfl⟩ := Outcome.ofResult_eq_made h
    obtain ⟨scope, rfl⟩ := eq_autoWireFile hsource
    exact ⟨_, _, rfl, rfl, .autoWire⟩

/-- The ends of the names are distinct except for the two roles of injection. -/
theorem Generator.exists_ends {generator : Generator} {c : ClassDeclaration} {context : Context}
    (hgenerator : generator ∈ builtin) {made : GeneratedFile}
    (h : generator.generate c context = .made made) :
    ∃ (source : SourceFile) (ends : List String), made = source.toGenerated ∧
      source.interfaces.map (·.name) =
        ends.map (c.generatedName (context.suffixes.ofGenerator generator) ++ ·) ∧
      (ends.Nodup ↔ (generator.name = autoWire.name →
        context.suffixes.module ≠ context.suffixes.component)) := by
  obtain ⟨source, ends, hmade, hnames, hends⟩ := exists_endsOf hgenerator h
  exact ⟨source, ends, hmade, hnames, hends.nodup_iff⟩

/-! ## Accepted settings -/

namespace Settings

variable {settings : Settings}

/-- Settings stay accepted with one suffix for both roles. -/
theorem validate_sameRoles (h : settings.validate = .ok ()) :
    ({ settings with
      suffixes := { settings.suffixes with component := settings.suffixes.module } } :
        Settings).validate = .ok () := by
  have hproblems := problems_eq_nil h
  apply validate_of_problems_eq_nil
  simp only [problems, Suffixes.problems, List.append_eq_nil_iff] at hproblems ⊢
  obtain ⟨⟨⟨⟨⟨⟨⟨hbindings, hprovisions⟩, hautoWire⟩, hmodule⟩, -⟩, hschema⟩, htasks⟩, hextension⟩ :=
    hproblems
  have hcomponent : suffixProblem "names.component_suffix" settings.suffixes.module = [] :=
    if_pos (isIdentifier_of_suffixProblem hmodule)
  exact ⟨⟨⟨⟨⟨⟨⟨hbindings, hprovisions⟩, hautoWire⟩, hmodule⟩, hcomponent⟩, hschema⟩, htasks⟩,
    hextension⟩

end Settings

/-- **When the interfaces of a file have names of their own**: always, if the file is one of bindings
or of provisions, and if and only if the suffixes of the two roles differ, if it is one of injection.
The same goes for the names as they are written. Accepted settings stay accepted if the suffixes are
made the same. -/
theorem declarations_nodup_iff (settings : Settings) (hsettings : settings.validate = .ok ())
    (hierarchy : Hierarchy) (c : ClassDeclaration) :
    (∀ generator ∈ Generator.builtin, ∀ file,
      generator.generate c (settings.toContext hierarchy) = .made file →
      ∃ source : SourceFile, file = source.toGenerated ∧
        (file.declarations.Nodup ↔ (generator.name = Generator.autoWire.name →
          settings.suffixes.module ≠ settings.suffixes.component)) ∧
        (source.writtenNames.Nodup ↔ (generator.name = Generator.autoWire.name →
          settings.suffixes.module ≠ settings.suffixes.component))) ∧
    ({ settings with
      suffixes := { settings.suffixes with component := settings.suffixes.module } } :
        Settings).validate = .ok () := by
  refine ⟨fun generator hgenerator file hfile => ?_, Settings.validate_sameRoles hsettings⟩
  obtain ⟨source, ends, rfl, hnames, hends⟩ := Generator.exists_ends hgenerator hfile
  -- The name of the file is not empty, because its suffix is an identifier.
  have hbase : c.generatedName (settings.suffixes.ofGenerator generator) ≠ "" := by
    rw [ClassDeclaration.generatedName, ne_eq, String.append_eq_empty_iff]
    exact fun hempty => Text.ne_empty_of_isIdentifier
      (Settings.isIdentifier_ofGenerator hsettings generator) hempty.2
  have hwritten : source.writtenNames = ends.map fun last =>
      escape (c.generatedName (settings.suffixes.ofGenerator generator) ++ last) := by
    have := congrArg (List.map escape) hnames
    rw [List.map_map, List.map_map] at this
    exact this
  refine ⟨source, rfl, ?_, ?_⟩
  · change (source.interfaces.map (·.name)).Nodup ↔ _
    rw [hnames, nodup_map_append_iff]
    exact hends
  · rw [hwritten, nodup_map_escape_append_iff hbase]
    exact hends

/-- With the defaults, the three interfaces of a class with three scopes and the two of a class whose
members are injected have names of their own. -/
theorem declarations_nodup_iff_defaults :
    let context := ({} : Settings).toContext .empty
    ({} : Settings).validate = .ok () ∧
      (∃ file, Generator.provisions.generate sharedClient context = .made file ∧
        file.declarations.length = 3 ∧ file.declarations.Nodup) ∧
      ∃ file, Generator.autoWire.generate (injectedClass "Login") context = .made file ∧
        file.declarations.length = 2 ∧ file.declarations.Nodup := by
  intro context
  have hprovisions := (declarations_nodup_iff {} Settings.validate_default .empty sharedClient).1
    .provisions (by simp [Generator.builtin]) _ rfl
  have hautoWire := (declarations_nodup_iff {} Settings.validate_default .empty
    (injectedClass "Login")).1 .autoWire (by simp [Generator.builtin]) _ rfl
  obtain ⟨_, -, hnumbered, -⟩ := hprovisions
  obtain ⟨_, -, hroles, -⟩ := hautoWire
  exact ⟨Settings.validate_default, ⟨_, rfl, by decide, hnumbered.2 (absurd · (by decide))⟩,
    ⟨_, rfl, rfl, hroles.2 fun _ => by decide⟩⟩

/-- Settings with one suffix for both roles. -/
def sameRoles : Settings where
  suffixes := { component := "Module" }

/-- **Two interfaces of one file may share their name**: settings with one suffix for both roles are
accepted, and then the interfaces for the injection of a class are both declared under one name. -/
theorem injected_interfaces_share_name :
    sameRoles.validate = .ok () ∧
      ∃ file, Generator.autoWire.generate (injectedClass "Login") (sameRoles.toContext .empty) =
          .made file ∧
        file.declarations = ["LoginAICodeGenModule", "LoginAICodeGenModule"] ∧
        ¬file.declarations.Nodup := by
  have hvalid := Settings.validate_sameRoles Settings.validate_default
  exact ⟨hvalid, _, rfl, by decide, by decide⟩

end Wiring
