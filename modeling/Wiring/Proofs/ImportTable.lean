import Wiring.Proofs.ByteOrder
import Wiring.Proofs.WrittenNames

/-!
# The law of the import table

Of the names with one short name the least holds it: it is written short, and the others are written
in full. In full a name without a parent is its short name, so that it is written alike whether it
holds its short name or not. What holds its short name and lies neither in the own package nor in one
that every file sees is imported.

* `HoldsShortName`: the least name of its short name, byte by byte;
* `qualifiedText_eq_escape_iff`: only a name without a parent is the same in full;
* `NameTable.pairwise_imports`, `NameTable.pairwise_shortName_imports`: the order of imports;
* **`NameTable.ofNames_isLawful`**: texts and imports of a table;
* **`NameTable.root_name_written_short`**: a name without a parent is written short although another
  name holds its short name.
-/

namespace Wiring.Kotlin

variable {package : String} {names : List QualifiedName} {n : QualifiedName}

/-! ## Short names -/

/-- No name has the short name of a name and lower bytes. -/
structure HoldsShortName (names : List QualifiedName) (n : QualifiedName) : Prop where
  mem : n ∈ names
  least : ∀ m ∈ names, m.shortName = n.shortName → n.bytes ≤ m.bytes

theorem holdsShortName_iff : HoldsShortName names n ↔ IsFirst names n := by
  have hle : ∀ m : QualifiedName, n.bytes ≤ m.bytes ↔ ¬m < n := fun m => by
    rw [QualifiedName.lt_iff_bytes, List.not_lt]
  constructor
  · exact fun h => ⟨h.mem, fun m hm hshort => (hle m).1 (h.least m hm hshort)⟩
  · exact fun h => ⟨h.mem, fun m hm hshort => (hle m).2 (h.least m hm hshort)⟩

theorem dot_not_mem_escape_shortName (n : QualifiedName) : '.' ∉ (escape n.shortName).toList := by
  intro hdot
  rcases toList_escape hdot with htick | hdot
  · exact absurd htick (by decide)
  · exact Text.not_mem_of_mem_segments n.shortName_mem hdot

/-- In full, only a name without a parent is written as its short name is. -/
theorem qualifiedText_eq_escape_iff : qualifiedText n = escape n.shortName ↔ n.parent? = none := by
  constructor
  · intro h
    cases hparent : n.parent? with
    | none => rfl
    | some parent =>
      have hlength : 2 ≤ n.segments.length := by
        rw [(QualifiedName.text_of_parent?_eq_some hparent).2, List.length_append]
        exact Nat.succ_le_succ (List.length_pos_of_ne_nil parent.segments_ne_nil)
      exact absurd (h ▸ dot_mem_qualifiedText hlength) (dot_not_mem_escape_shortName n)
  · intro h
    obtain ⟨hsegments, hshort⟩ := QualifiedName.segments_of_parent?_eq_none h
    rw [qualifiedText, hsegments, hshort, List.map_singleton, String.intercalate_singleton]

/-! ## Imports -/

theorem needsImport_iff : needsImport package n ↔
    ∃ parent, n.parent? = some parent ∧ parent.text ≠ package ∧ parent.text ∉ defaultPackages := by
  rw [needsImport]
  cases n.parent? with
  | none => simp
  | some parent => simp

namespace NameTable

theorem firstByShortName_sublist (taken : List String) (names : List QualifiedName) :
    (firstByShortName taken names).Sublist names := by
  induction names generalizing taken with
  | nil => exact .slnil
  | cons name rest ih =>
    rw [firstByShortName]
    split
    · exact (ih _).cons _
    · exact (ih _).cons_cons _

/-- Imports are listed in the order of the names, each once. -/
theorem pairwise_imports : (ofNames package names).imports.Pairwise (· < ·) :=
  (pairwise_sortedNames names).sublist
    (List.filter_sublist.trans (firstByShortName_sublist [] (sortedNames names)))

theorem pairwise_shortName_imports :
    (ofNames package names).imports.Pairwise fun m n => m.shortName ≠ n.shortName := by
  refine pairwise_imports.imp_of_mem fun {m n} hm hn hless hshort => ?_
  have heq := (mem_imports_ofNames.1 hm).1.eq_of_shortName (mem_imports_ofNames.1 hn).1 hshort
  exact QualifiedName.not_lt_self n (heq ▸ hless)

/-- The law of a table for a package and names: the least name of each short name, and no other, is
entered with that short name and written so; the others are written in full. So the text of a name is
its short name if and only if it holds its short name or has no parent. Imported is what is entered
and needs it, in the order of the bytes and with different short names. Valid names with parents have
different texts. -/
structure IsLawful (table : NameTable) (package : String) (names : List QualifiedName) :
    Prop where
  entered : ∀ n, table.short.lookup n = some (escape n.shortName) ↔ HoldsShortName names n
  short : ∀ n, HoldsShortName names n → table.text n = escape n.shortName
  full : ∀ n, ¬HoldsShortName names n → table.text n = qualifiedText n
  short_iff : ∀ n, table.text n = escape n.shortName ↔
    HoldsShortName names n ∨ n.parent? = none
  imported : ∀ n, n ∈ table.imports ↔ HoldsShortName names n ∧
    ∃ parent, n.parent? = some parent ∧ parent.text ≠ package ∧ parent.text ∉ defaultPackages
  ascending : table.imports.Pairwise (·.bytes < ·.bytes)
  distinct : table.imports.Pairwise (·.shortName ≠ ·.shortName)
  injective : (∀ n ∈ names, n.isValid ∧ 2 ≤ n.segments.length) →
    ∀ m ∈ names, ∀ n ∈ names, table.text m = table.text n → m = n

/-- **The table of every package and all names is lawful.** -/
theorem ofNames_isLawful (package : String) (names : List QualifiedName) :
    (ofNames package names).IsLawful package names := by
  have hshort : ∀ n, HoldsShortName names n → (ofNames package names).text n = escape n.shortName :=
    fun n h => text_of_isFirst (holdsShortName_iff.1 h)
  have hfull : ∀ n, ¬HoldsShortName names n → (ofNames package names).text n = qualifiedText n :=
    fun n h => text_of_not_isFirst (mt holdsShortName_iff.2 h)
  refine ⟨fun n => ?_, hshort, hfull, fun n => ?_, fun n => ?_, ?_, pairwise_shortName_imports,
    fun hnames => ?_⟩
  · rw [holdsShortName_iff, ← mem_chosen, ofNames, lookup_map_escape]
    simp
  · by_cases hholds : HoldsShortName names n
    · simp only [hholds, hshort n hholds, true_or]
    · rw [hfull n hholds, qualifiedText_eq_escape_iff, or_iff_right hholds]
  · rw [mem_imports_ofNames, needsImport_iff, holdsShortName_iff]
  · exact pairwise_imports.imp QualifiedName.lt_iff_bytes.1
  · exact (separates_ofNames (fun n hn => (hnames n hn).1) fun n hn => (hnames n hn).2).injective

/-- Three names with one short name, of which one lies in the own package and one in a package that
every file sees, and a name with a keyword as its short name. -/
def collidingNames : List QualifiedName :=
  [⟨"two.String"⟩, ⟨"kotlin.String"⟩, ⟨"app.String"⟩, ⟨"one.object"⟩]

/-- The same names, and two with another short name, of which one has no parent. -/
def rootedNames : List QualifiedName := collidingNames ++ [⟨"view"⟩, ⟨"one.view"⟩]

/-- The names with parents have different texts. With the others beside them the same two hold their
short names, and so does `one.view`; `view` is written alike without holding it. -/
theorem ofNames_isLawful_colliding :
    (∀ n ∈ collidingNames, n.isValid ∧ 2 ≤ n.segments.length) ∧
      (∀ m ∈ collidingNames, ∀ n ∈ collidingNames,
        (ofNames "app" collidingNames).text m = (ofNames "app" collidingNames).text n → m = n) ∧
      (∀ n ∈ rootedNames, HoldsShortName rootedNames n ↔
        n ∈ [⟨"app.String"⟩, ⟨"one.object"⟩, ⟨"one.view"⟩]) ∧
      (ofNames "app" rootedNames).text ⟨"one.view"⟩ = "view" ∧
      (ofNames "app" rootedNames).text ⟨"view"⟩ = "view" ∧
      (ofNames "app" rootedNames).imports = [⟨"one.object"⟩, ⟨"one.view"⟩] := by
  have hlawful := ofNames_isLawful "app" collidingNames
  have hrooted := ofNames_isLawful "app" rootedNames
  have hnames : ∀ n ∈ collidingNames, n.isValid ∧ 2 ≤ n.segments.length := by decide
  have hentered : ∀ n ∈ rootedNames,
      (ofNames "app" rootedNames).short.lookup n = some (escape n.shortName) ↔
        n ∈ [⟨"app.String"⟩, ⟨"one.object"⟩, ⟨"one.view"⟩] := by
    decide
  have hholds : ∀ n ∈ rootedNames, HoldsShortName rootedNames n ↔
      n ∈ [⟨"app.String"⟩, ⟨"one.object"⟩, ⟨"one.view"⟩] := fun n hn =>
    (hrooted.entered n).symm.trans (hentered n hn)
  exact ⟨hnames, hlawful.injective hnames, hholds,
    hrooted.short ⟨"one.view"⟩ ((hholds _ (by decide)).2 (by decide)),
    (hrooted.short_iff ⟨"view"⟩).2 (.inr (by decide)), by decide⟩

/-- **A name without a parent is written short although another name holds its short name**: of `A.X`
and `X` the first is the least, and in full the second one is its short name. -/
theorem root_name_written_short :
    ¬∀ n ∈ [⟨"A.X"⟩, ⟨"X"⟩],
      ((ofNames "app" [⟨"A.X"⟩, ⟨"X"⟩]).text n = escape n.shortName ↔
        HoldsShortName [⟨"A.X"⟩, ⟨"X"⟩] n) := by
  intro hiff
  have hroot := hiff ⟨"X"⟩ (List.mem_cons_of_mem _ List.mem_cons_self)
  have hholds := hroot.1 (by decide)
  exact absurd (hholds.least ⟨"A.X"⟩ List.mem_cons_self (by decide)) (by decide)

end NameTable

end Wiring.Kotlin
