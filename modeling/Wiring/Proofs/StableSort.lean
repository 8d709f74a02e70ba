import Mathlib.Data.List.Nodup
import Wiring.GeneratedFile

/-!
# The order of files

`GeneratedFile.sortByName` sorts stably: files come by package and then by name, and files of one
package and name keep the order they had.

* `GeneratedFile.IsStableSort`: what a stable sort of files is;
* **`GeneratedFile.isStableSort_sortByName`**;
* `GeneratedFile.sortByName_eq_of_perm`: files with names of their own have one order only.
-/

namespace Wiring.GeneratedFile

/-- `sorted` has the given files by package and name, and the files of any one package and name in
the order in which they are given. -/
structure IsStableSort (files sorted : List GeneratedFile) : Prop where
  ordered : sorted.Pairwise fun a b =>
    a.package < b.package ∨ a.package = b.package ∧ a.fileName ≤ b.fileName
  stable : ∀ package name,
    sorted.filter (fun file => file.package = package ∧ file.fileName = name) =
      files.filter (fun file => file.package = package ∧ file.fileName = name)

theorem before_iff {a b : GeneratedFile} :
    a.before b ↔ a.package < b.package ∨ a.package = b.package ∧ a.fileName ≤ b.fileName := by
  simp [before]

theorem before_trans (a b c : GeneratedFile) (hab : a.before b) (hbc : b.before c) :
    a.before c := by
  rw [before_iff] at *
  rcases hab with hab | ⟨hab, hn⟩ <;> rcases hbc with hbc | ⟨hbc, hm⟩
  · exact .inl (String.lt_trans hab hbc)
  · exact .inl (hbc ▸ hab)
  · exact .inl (hab ▸ hbc)
  · exact .inr ⟨hab.trans hbc, String.le_trans hn hm⟩

theorem before_total (a b : GeneratedFile) : a.before b || b.before a := by
  rw [Bool.or_eq_true, before_iff, before_iff]
  by_cases hab : a.package < b.package
  · exact .inl (.inl hab)
  by_cases hba : b.package < a.package
  · exact .inr (.inl hba)
  have heq : a.package = b.package :=
    String.le_antisymm (String.not_lt.1 hba) (String.not_lt.1 hab)
  rcases String.le_total a.fileName b.fileName with h | h
  · exact .inl (.inr ⟨heq, h⟩)
  · exact .inr (.inr ⟨heq.symm, h⟩)

theorem sortByName_perm (files : List GeneratedFile) : (sortByName files).Perm files :=
  List.mergeSort_perm files before

theorem sortByName_pairwise (files : List GeneratedFile) :
    (sortByName files).Pairwise fun a b => a.before b :=
  List.pairwise_mergeSort before_trans before_total files

/-- Files that do not come after one another keep their order. -/
theorem filter_sortByName (files : List GeneratedFile) (p : GeneratedFile → Bool)
    (h : ∀ a b, p a → p b → a.before b) : (sortByName files).filter p = files.filter p := by
  have hpair : (files.filter p).Pairwise fun a b => a.before b := by
    refine List.pairwise_of_forall_mem_list fun a ha b hb => ?_
    exact h a b (List.mem_filter.1 ha).2 (List.mem_filter.1 hb).2
  have hsub : (files.filter p).Sublist (sortByName files) :=
    List.sublist_mergeSort before_trans before_total hpair List.filter_sublist
  have hfilter := hsub.filter p
  rw [List.filter_filter] at hfilter
  simp only [Bool.and_self] at hfilter
  exact (hfilter.eq_of_length ((sortByName_perm files).filter p).length_eq.symm).symm

/-- **Files are sorted stably.** -/
theorem isStableSort_sortByName (files : List GeneratedFile) :
    IsStableSort files (sortByName files) where
  ordered := (sortByName_pairwise files).imp before_iff.1
  stable package name := by
    refine filter_sortByName files _ fun a b ha hb => ?_
    rw [decide_eq_true_eq] at ha hb
    rw [before_iff, ha.1, hb.1, ha.2, hb.2]
    exact .inr ⟨rfl, String.le_refl _⟩

/-- Files that come neither before one another have one package and one name. -/
theorem before_antisymm {a b : GeneratedFile} (hab : a.before b) (hba : b.before a) :
    (a.package, a.fileName) = (b.package, b.fileName) := by
  rw [before_iff] at hab hba
  rcases hab with hab | ⟨hpackage, hab⟩ <;> rcases hba with hba | ⟨hpackage', hba⟩
  · exact absurd (String.lt_trans hab hba) (String.lt_irrefl _)
  · exact absurd (hpackage' ▸ hab) (String.lt_irrefl _)
  · exact absurd (hpackage ▸ hba) (String.lt_irrefl _)
  · rw [hpackage, String.le_antisymm hab hba]

/-- **Files that no two of which share package and name are sorted in one way**, whatever the order
in which they are given. -/
theorem sortByName_eq_of_perm {files files' : List GeneratedFile} (h : files.Perm files')
    (hkeys : (files'.map fun file => (file.package, file.fileName)).Nodup) :
    sortByName files = sortByName files' := by
  have hperm : (sortByName files).Perm (sortByName files') :=
    (sortByName_perm files).trans (h.trans (sortByName_perm files').symm)
  refine List.Perm.eq_of_pairwise (fun a b ha hb hab hba => ?_) (sortByName_pairwise files)
    (sortByName_pairwise files') hperm
  have ha' : a ∈ files' := h.subset ((sortByName_perm files).subset ha)
  have hb' : b ∈ files' := (sortByName_perm files').subset hb
  exact List.inj_on_of_nodup_map hkeys ha' hb' (before_antisymm hab hba)

end Wiring.GeneratedFile
