import Mathlib.Data.List.Nodup
import Wiring.Declaration

/-!
# Paths of classes

A path of indices leads from the classes of a unit to one of them, each index choosing among the
classes nested in the last one.

* `ClassDeclaration.descend?`: following a path down from a class;
* `ClassDeclaration.mem_paths`: the paths listed for a class and for a list of classes;
* `CompilationUnit.map_snd_classPaths`: the classes listed with paths are all classes, in order;
* `CompilationUnit.nodup_classPaths`: no path is listed twice;
* **`CompilationUnit.mem_classPaths`**: the paths listed for a unit are those that lead to a class.
-/

namespace Wiring

namespace ClassDeclaration

/-- The class that a path leads to from a class on. -/
def descend? (c : ClassDeclaration) (path : List Nat) : Option ClassDeclaration :=
  path.foldlM (·.nested[·]?) c

theorem descend?_cons (c : ClassDeclaration) (index : Nat) (path : List Nat) :
    c.descend? (index :: path) = (c.nested[index]?).bind (·.descend? path) := rfl

-- A class is listed with its nested ones, a list class by class: both facts follow the two lists.
mutual

theorem mem_paths (path p : List Nat) (d : ClassDeclaration) :
    ∀ c : ClassDeclaration,
      (p, d) ∈ c.paths path ↔ ∃ rest, p = path ++ rest ∧ c.descend? rest = some d
  | c@⟨_, _, _, _, _, _, _, nested⟩ => by
    rw [paths, List.mem_cons, mem_pathsFrom path p d 0 nested]
    constructor
    · rintro (h | ⟨i, rest, e, hi, rfl, h⟩)
      · cases h
        exact ⟨[], by simp, rfl⟩
      · refine ⟨i :: rest, by simp, ?_⟩
        rw [descend?_cons, hi]
        exact h
    · rintro ⟨rest, rfl, h⟩
      cases rest with
      | nil =>
        cases h
        simp
      | cons i rest =>
        rw [descend?_cons] at h
        obtain ⟨e, he, h⟩ := Option.bind_eq_some_iff.1 h
        exact .inr ⟨i, rest, e, he, by simp, h⟩
  termination_by structural c => c

theorem mem_pathsFrom (path p : List Nat) (d : ClassDeclaration) (index : Nat) :
    ∀ classes : List ClassDeclaration,
      (p, d) ∈ pathsFrom path index classes ↔
        ∃ i rest c, classes[i]? = some c ∧ p = path ++ (index + i) :: rest ∧
          c.descend? rest = some d
  | [] => by simp [pathsFrom]
  | c :: classes => by
    rw [pathsFrom, List.mem_append, mem_paths (path ++ [index]) p d c,
      mem_pathsFrom path p d (index + 1) classes]
    constructor
    · rintro (⟨rest, rfl, h⟩ | ⟨i, rest, e, he, rfl, h⟩)
      · exact ⟨0, rest, c, by simp, by simp, h⟩
      · exact ⟨i + 1, rest, e, by simpa using he, by simp; omega, h⟩
    · rintro ⟨i, rest, e, he, rfl, h⟩
      cases i with
      | zero =>
        cases he
        exact .inl ⟨rest, by simp, h⟩
      | succ i => exact .inr ⟨i, rest, e, by simpa using he, by simp; omega, h⟩
  termination_by structural classes => classes

end

mutual

theorem map_snd_paths (path : List Nat) :
    ∀ c : ClassDeclaration, (c.paths path).map (·.2) = c.family
  | c@⟨_, _, _, _, _, _, _, nested⟩ => by
    rw [paths, family, List.map_cons, map_snd_pathsFrom path 0 nested]
  termination_by structural c => c

theorem map_snd_pathsFrom (path : List Nat) (index : Nat) :
    ∀ classes : List ClassDeclaration, (pathsFrom path index classes).map (·.2) = families classes
  | [] => rfl
  | c :: classes => by
    rw [pathsFrom, families, List.map_append, map_snd_paths (path ++ [index]) c,
      map_snd_pathsFrom path (index + 1) classes]
  termination_by structural classes => classes

end

theorem append_of_mem_map_paths {path p : List Nat} {c : ClassDeclaration}
    (h : p ∈ (c.paths path).map (·.1)) : ∃ rest, p = path ++ rest := by
  obtain ⟨⟨p, d⟩, hentry, rfl⟩ := List.mem_map.1 h
  obtain ⟨rest, hp, -⟩ := (mem_paths path p d c).1 hentry
  exact ⟨rest, hp⟩

theorem append_of_mem_map_pathsFrom {path p : List Nat} {index : Nat}
    {classes : List ClassDeclaration} (h : p ∈ (pathsFrom path index classes).map (·.1)) :
    ∃ i rest, p = path ++ (index + i) :: rest := by
  obtain ⟨⟨p, d⟩, hentry, rfl⟩ := List.mem_map.1 h
  obtain ⟨i, rest, -, -, hp, -⟩ := (mem_pathsFrom path p d index classes).1 hentry
  exact ⟨i, rest, hp⟩

mutual

theorem nodup_paths (path : List Nat) : ∀ c : ClassDeclaration, ((c.paths path).map (·.1)).Nodup
  | c@⟨_, _, _, _, _, _, _, nested⟩ => by
    rw [paths, List.map_cons, List.nodup_cons]
    refine ⟨fun hpath => ?_, nodup_pathsFrom path 0 nested⟩
    obtain ⟨i, rest, hlonger⟩ := append_of_mem_map_pathsFrom hpath
    have hnil : (0 + i) :: rest = [] := List.self_eq_append_right.1 hlonger
    cases hnil
  termination_by structural c => c

theorem nodup_pathsFrom (path : List Nat) (index : Nat) :
    ∀ classes : List ClassDeclaration, ((pathsFrom path index classes).map (·.1)).Nodup
  | [] => List.nodup_nil
  | c :: classes => by
    rw [pathsFrom, List.map_append]
    refine (nodup_paths (path ++ [index]) c).append (nodup_pathsFrom path (index + 1) classes) ?_
    intro p hfirst hlater
    obtain ⟨rest, hp⟩ := append_of_mem_map_paths hfirst
    obtain ⟨i, rest', hp'⟩ := append_of_mem_map_pathsFrom hlater
    rw [hp, List.append_assoc, List.append_cancel_left_eq] at hp'
    obtain ⟨hindex, -⟩ := List.cons.inj hp'
    omega
  termination_by structural classes => classes

end

end ClassDeclaration

namespace CompilationUnit

theorem map_snd_classPaths (unit : CompilationUnit) :
    unit.classPaths.map (·.2) = unit.allClasses :=
  ClassDeclaration.map_snd_pathsFrom [] 0 unit.classes

theorem nodup_classPaths (unit : CompilationUnit) : (unit.classPaths.map (·.1)).Nodup :=
  ClassDeclaration.nodup_pathsFrom [] 0 unit.classes

theorem classAt?_cons (unit : CompilationUnit) (index : Nat) (path : List Nat) :
    unit.classAt? (index :: path) = (unit.classes[index]?).bind (·.descend? path) := rfl

/-- A class nested in another one stands at the path of that one with its place among the nested
classes. -/
theorem classAt?_nested {unit : CompilationUnit} {path : List Nat} {c : ClassDeclaration}
    (h : unit.classAt? path = some c) (index : Nat) :
    unit.classAt? (path ++ [index]) = c.nested[index]? := by
  cases path with
  | nil => cases h
  | cons first rest =>
    obtain ⟨top, htop, hrest⟩ := Option.bind_eq_some_iff.1 h
    rw [List.cons_append, classAt?_cons, htop, Option.bind_some, ClassDeclaration.descend?,
      List.foldlM_append, hrest]
    exact bind_pure (c.nested[index]?)

/-- **The listed paths are those that lead to a class**, each with that class. -/
theorem mem_classPaths {unit : CompilationUnit} {path : List Nat} {c : ClassDeclaration} :
    (path, c) ∈ unit.classPaths ↔ unit.classAt? path = some c := by
  rw [classPaths, ClassDeclaration.mem_pathsFrom]
  cases path with
  | nil => simp [classAt?]
  | cons index rest =>
    constructor
    · rintro ⟨i, rest', e, he, hp, h⟩
      simp only [List.nil_append, Nat.zero_add, List.cons.injEq] at hp
      obtain ⟨rfl, rfl⟩ := hp
      rw [classAt?_cons, he]
      exact h
    · intro h
      rw [classAt?_cons] at h
      obtain ⟨e, he, h⟩ := Option.bind_eq_some_iff.1 h
      exact ⟨index, rest, e, he, by simp, h⟩

end CompilationUnit

end Wiring
