import Wiring.Kotlin.NameTable

/-!
# The law of name tables

Of the classes with one short name the first in the order of the names is written short, and a class
written short is imported where that is needed; all other classes keep their whole names.

* `sortedNames`: `mem_sortedNames`, `pairwise_sortedNames`;
* `IsFirst`: the first of the names with a short name, unique by `IsFirst.eq_of_shortName`; there is
  one by `NameTable.exists_isFirst`;
* `NameTable.text_of_isFirst`, `NameTable.text_of_not_isFirst`, `NameTable.mem_imports_ofNames`:
  the texts and the imports of a table.
-/

namespace Wiring

/-! ## Sorted names -/

theorem QualifiedName.not_lt_self (n : QualifiedName) : ¬n < n := String.lt_irrefl n.text

theorem keys_insertEntry {α : Type} (key : QualifiedName) (value : α)
    (entries : List (QualifiedName × α)) (n : QualifiedName) :
    n ∈ (insertEntry key value entries).map (·.1) ↔ n = key ∨ n ∈ entries.map (·.1) := by
  induction entries with
  | nil => simp [insertEntry]
  | cons entry rest ih =>
    rw [insertEntry]
    split
    · simp
    · next hkey =>
      split
      · rw [List.map_cons, List.mem_cons, ih, List.map_cons, List.mem_cons, or_left_comm]
      · next hentry =>
        have heq : key = entry.1 := QualifiedName.eq_of_not_lt hkey hentry
        simp [heq]

theorem keys_ofList {α : Type} (entries : List (QualifiedName × α)) (n : QualifiedName) :
    n ∈ (NameMap.ofList entries).entries.map (·.1) ↔ n ∈ entries.map (·.1) := by
  have hfold : ∀ map : NameMap α,
      n ∈ (entries.foldl (fun map entry => map.insert entry.1 entry.2) map).entries.map (·.1) ↔
        n ∈ entries.map (·.1) ∨ n ∈ map.entries.map (·.1) := by
    induction entries with
    | nil => simp
    | cons entry rest ih =>
      intro map
      rw [List.foldl_cons, ih, NameMap.insert, keys_insertEntry, List.map_cons, List.mem_cons,
        or_left_comm, or_assoc]
  rw [NameMap.ofList, hfold]
  simp [NameMap.empty]

theorem mem_sortedNames {names : List QualifiedName} {n : QualifiedName} :
    n ∈ sortedNames names ↔ n ∈ names := by
  rw [sortedNames, keys_ofList, List.map_map]
  simp

theorem pairwise_sortedNames (names : List QualifiedName) :
    (sortedNames names).Pairwise (· < ·) :=
  List.pairwise_map.2 (NameMap.ofList _).sorted

namespace Kotlin

/-! ## The first name with each short name -/

/-- No other of the names with its short name comes before a name. -/
structure IsFirst (names : List QualifiedName) (n : QualifiedName) : Prop where
  mem : n ∈ names
  least : ∀ m ∈ names, m.shortName = n.shortName → ¬m < n

theorem IsFirst.eq_of_shortName {names : List QualifiedName} {m n : QualifiedName}
    (hm : IsFirst names m) (hn : IsFirst names n) (h : m.shortName = n.shortName) : m = n :=
  QualifiedName.eq_of_not_lt (hn.least m hm.mem h) (hm.least n hn.mem h.symm)

namespace NameTable

theorem mem_firstByShortName {taken : List String} {names : List QualifiedName}
    (hsorted : names.Pairwise (· < ·)) {n : QualifiedName} :
    n ∈ firstByShortName taken names ↔ IsFirst names n ∧ n.shortName ∉ taken := by
  induction names generalizing taken with
  | nil =>
    simp only [firstByShortName, List.not_mem_nil, false_iff]
    exact fun h => List.not_mem_nil h.1.mem
  | cons a rest ih =>
    obtain ⟨hless, hrest⟩ := List.pairwise_cons.1 hsorted
    rw [firstByShortName]
    split
    · next htaken =>
      rw [List.contains_iff_mem] at htaken
      rw [ih hrest]
      constructor
      · rintro ⟨hn, hfree⟩
        refine ⟨⟨List.mem_cons_of_mem a hn.mem, fun m hm hshort => ?_⟩, hfree⟩
        rcases List.mem_cons.1 hm with rfl | hm
        · exact absurd (hshort ▸ htaken) hfree
        · exact hn.least m hm hshort
      · rintro ⟨hn, hfree⟩
        refine ⟨⟨?_, fun m hm => hn.least m (List.mem_cons_of_mem a hm)⟩, hfree⟩
        rcases List.mem_cons.1 hn.mem with rfl | hmem
        · exact absurd htaken hfree
        · exact hmem
    · next hfree =>
      rw [List.contains_iff_mem] at hfree
      rw [List.mem_cons, ih hrest]
      constructor
      · rintro (rfl | ⟨hn, hnew⟩)
        · refine ⟨⟨List.mem_cons_self, fun m hm _ hlt => ?_⟩, hfree⟩
          rcases List.mem_cons.1 hm with rfl | hm
          · exact QualifiedName.not_lt_self m hlt
          · exact QualifiedName.not_lt_self m (QualifiedName.lt_trans hlt (hless m hm))
        · rw [List.mem_cons, not_or] at hnew
          refine ⟨⟨List.mem_cons_of_mem a hn.mem, fun m hm hshort => ?_⟩, hnew.2⟩
          rcases List.mem_cons.1 hm with rfl | hm
          · exact absurd hshort.symm hnew.1
          · exact hn.least m hm hshort
      · rintro ⟨hn, hold⟩
        rcases List.mem_cons.1 hn.mem with heq | hmem
        · exact .inl heq
        · refine .inr ⟨⟨hmem, fun m hm => hn.least m (List.mem_cons_of_mem a hm)⟩, ?_⟩
          rw [List.mem_cons, not_or]
          exact ⟨fun h => hn.least a List.mem_cons_self h.symm (hless n hmem), hold⟩

theorem isFirst_sortedNames {names : List QualifiedName} {n : QualifiedName} :
    IsFirst (sortedNames names) n ↔ IsFirst names n := by
  constructor
  · exact fun h => ⟨mem_sortedNames.1 h.mem, fun m hm => h.least m (mem_sortedNames.2 hm)⟩
  · exact fun h => ⟨mem_sortedNames.2 h.mem, fun m hm => h.least m (mem_sortedNames.1 hm)⟩

/-- The names that are written short are the first ones with their short names. -/
theorem mem_chosen {names : List QualifiedName} {n : QualifiedName} :
    n ∈ firstByShortName [] (sortedNames names) ↔ IsFirst names n := by
  rw [mem_firstByShortName (pairwise_sortedNames names), isFirst_sortedNames]
  simp

theorem exists_mem_firstByShortName {taken : List String} {names : List QualifiedName}
    {n : QualifiedName} (hn : n ∈ names) (hfree : n.shortName ∉ taken) :
    ∃ m ∈ firstByShortName taken names, m.shortName = n.shortName := by
  induction names generalizing taken with
  | nil => exact absurd hn List.not_mem_nil
  | cons a rest ih =>
    rw [firstByShortName]
    split
    · next htaken =>
      rcases List.mem_cons.1 hn with rfl | hn
      · exact absurd (List.contains_iff_mem.1 htaken) hfree
      · exact ih hn hfree
    · by_cases ha : a.shortName = n.shortName
      · exact ⟨a, List.mem_cons_self, ha⟩
      · have hn : n ∈ rest := (List.mem_cons.1 hn).resolve_left fun heq => ha (heq ▸ rfl)
        have hnew : n.shortName ∉ a.shortName :: taken := by
          rw [List.mem_cons, not_or]
          exact ⟨Ne.symm ha, hfree⟩
        obtain ⟨m, hm, hshort⟩ := ih hn hnew
        exact ⟨m, List.mem_cons_of_mem a hm, hshort⟩

/-- One of the names with a short name is the first. -/
theorem exists_isFirst {names : List QualifiedName} {n : QualifiedName} (hn : n ∈ names) :
    ∃ m, IsFirst names m ∧ m.shortName = n.shortName := by
  obtain ⟨m, hm, hshort⟩ :=
    exists_mem_firstByShortName (mem_sortedNames.2 hn) List.not_mem_nil
  exact ⟨m, mem_chosen.1 hm, hshort⟩

theorem lookup_map_escape (chosen : List QualifiedName) (n : QualifiedName) :
    (chosen.map fun m => (m, escape m.shortName)).lookup n =
      if n ∈ chosen then some (escape n.shortName) else none := by
  induction chosen with
  | nil => rfl
  | cons m rest ih =>
    rw [List.map_cons, List.lookup_cons, ih]
    by_cases h : n = m
    · simp [h]
    · have hbeq : (n == m) = false := by simpa using h
      simp [hbeq, h]

/-- **The first name with a short name is written short.** -/
theorem text_of_isFirst {package : String} {names : List QualifiedName} {n : QualifiedName}
    (h : IsFirst names n) : (ofNames package names).text n = escape n.shortName := by
  rw [text, ofNames, lookup_map_escape, if_pos (mem_chosen.2 h), Option.getD_some]

/-- **Any other name is written in full.** -/
theorem text_of_not_isFirst {package : String} {names : List QualifiedName} {n : QualifiedName}
    (h : ¬IsFirst names n) : (ofNames package names).text n = qualifiedText n := by
  rw [text, ofNames, lookup_map_escape, if_neg fun hn => h (mem_chosen.1 hn), Option.getD_none]

/-- **The imports are the names that are written short and need one.** -/
theorem mem_imports_ofNames {package : String} {names : List QualifiedName} {n : QualifiedName} :
    n ∈ (ofNames package names).imports ↔ IsFirst names n ∧ needsImport package n := by
  rw [ofNames, List.mem_filter, mem_chosen]

end NameTable

end Kotlin

end Wiring
