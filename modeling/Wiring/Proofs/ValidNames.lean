import Wiring.Proofs.InterfaceNames

/-!
# Valid names

What is generated for a class with a valid name has identifiers for names, as long as the suffixes
are identifiers: whatever the package of the class is, what is left of its name are whole segments,
and neither underscores between them nor numbers and suffixes behind them spoil a name.

* `continuesIdentifier_of_mem_numbered`: numbers with a suffix behind them;
* `Settings.isIdentifier_roles`: the suffixes of the two roles;
* `Generator.exists_end_of_declared`: what follows the name of a file in the names of its
  interfaces;
* **`isIdentifier_of_made`**: all names of a generated file are identifiers.
-/

namespace Wiring

open Text

/-! ## Ends of names -/

/-- A number and a suffix may follow a name. -/
theorem continuesIdentifier_of_mem_numbered {component : String} (h : isIdentifier component)
    (k : Nat) : ∀ c ∈ (k.repr ++ component).toList, continuesIdentifier c := by
  rw [String.toList_append, List.forall_mem_append]
  exact ⟨fun c hc => continuesIdentifier_of_isDigit (isDigit_of_mem_repr hc),
    all_continuesIdentifier h⟩

/-- The suffixes of the two roles are identifiers in accepted settings. -/
theorem Settings.isIdentifier_roles {settings : Settings} (h : settings.validate = .ok ()) :
    isIdentifier settings.suffixes.module ∧ isIdentifier settings.suffixes.component := by
  have hproblems := problems_eq_nil h
  simp only [problems, Suffixes.problems, List.append_eq_nil_iff] at hproblems
  obtain ⟨⟨⟨⟨⟨-, hmodule⟩, hcomponent⟩, -⟩, -⟩, -⟩ := hproblems
  exact ⟨isIdentifier_of_suffixProblem hmodule, isIdentifier_of_suffixProblem hcomponent⟩

/-! ## Generated files -/

/-- What follows the name of a file may stand in an identifier. -/
theorem Suffixes.Ends.continuesIdentifier {suffixes : Suffixes} {generator : Generator}
    {ends : List String} (h : suffixes.Ends generator ends) (hmodule : isIdentifier suffixes.module)
    (hcomponent : isIdentifier suffixes.component) :
    ∀ last ∈ ends, ∀ d ∈ last.toList, Text.continuesIdentifier d := by
  cases h with
  | bindings => simp
  | provisions length =>
    intro last hlast
    obtain ⟨k, -, rfl⟩ := List.mem_map.1 hlast
    exact continuesIdentifier_of_mem_numbered hcomponent k
  | autoWire =>
    rw [List.forall_mem_cons, List.forall_mem_singleton]
    exact ⟨all_continuesIdentifier hmodule, all_continuesIdentifier hcomponent⟩

/-- The name of an interface is the name of its file, and behind it only what may stand in an
identifier. -/
theorem Generator.exists_end_of_declared {generator : Generator} {c : ClassDeclaration}
    {context : Context} (hgenerator : generator ∈ builtin)
    (hmodule : isIdentifier context.suffixes.module)
    (hcomponent : isIdentifier context.suffixes.component) {made : GeneratedFile}
    (h : generator.generate c context = .made made) {name : String}
    (hname : name ∈ made.declarations) :
    ∃ last, name = made.fileName ++ last ∧ ∀ d ∈ last.toList, continuesIdentifier d := by
  obtain ⟨-, hfileName⟩ := Prod.mk.inj (key_of_made hgenerator h)
  obtain ⟨source, ends, rfl, hnames, hends⟩ := exists_endsOf hgenerator h
  rw [Kotlin.SourceFile.toGenerated, hnames] at hname
  obtain ⟨last, hlast, rfl⟩ := List.mem_map.1 hname
  exact ⟨last, by rw [hfileName], hends.continuesIdentifier hmodule hcomponent last hlast⟩

/-- **All names of a generated file are identifiers**: its own and those of the interfaces in it,
for every class with a valid name, in whatever package, and with the suffixes of accepted
settings. -/
theorem isIdentifier_of_made (settings : Settings) (hsettings : settings.validate = .ok ())
    (context : Context) (hsuffixes : context.suffixes = settings.suffixes) (c : ClassDeclaration)
    (hname : c.name.isValid) :
    ∀ generator ∈ Generator.builtin, ∀ file, generator.generate c context = .made file →
      isIdentifier file.fileName ∧ ∀ name ∈ file.declarations, isIdentifier name := by
  intro generator hgenerator file hfile
  have hfileName : isIdentifier file.fileName := by
    obtain ⟨-, hkey⟩ := Prod.mk.inj (Generator.key_of_made hgenerator hfile)
    rw [hkey, hsuffixes]
    exact c.isIdentifier_generatedName hname (Settings.isIdentifier_ofGenerator hsettings generator)
  refine ⟨hfileName, fun name hdeclared => ?_⟩
  obtain ⟨hmodule, hcomponent⟩ := Settings.isIdentifier_roles hsettings
  obtain ⟨last, rfl, hlast⟩ := Generator.exists_end_of_declared hgenerator
    (hsuffixes ▸ hmodule) (hsuffixes ▸ hcomponent) hfile hdeclared
  exact isIdentifier_append hfileName hlast

/-- A class in a package whose name is the beginning of that of the class, but not up to a dot. -/
def besidePackage : ClassDeclaration := { injectedClass "data.Outer" with package := "p.da" }

/-- The whole name of such a class goes into the names of its file and of the interfaces there. -/
theorem isIdentifier_of_made_besidePackage :
    let settings : Settings := { suffixes := { component := "_2" } }
    settings.validate = .ok () ∧ besidePackage.name.isValid ∧
      ∃ file, Generator.autoWire.generate besidePackage (settings.toContext .empty) = .made file ∧
        file.fileName = "p_data_OuterAICodeGen" ∧
        file.declarations = ["p_data_OuterAICodeGenModule", "p_data_OuterAICodeGen_2"] ∧
        isIdentifier file.fileName ∧ ∀ name ∈ file.declarations, isIdentifier name := by
  intro settings
  have hsettings : settings.validate = .ok () := by decide +kernel
  have hname : besidePackage.name.isValid := by decide
  have hmade := isIdentifier_of_made settings hsettings (settings.toContext .empty) rfl
    besidePackage hname .autoWire (by simp [Generator.builtin]) _ rfl
  exact ⟨hsettings, hname, _, rfl, by decide, by decide, hmade⟩

end Wiring
