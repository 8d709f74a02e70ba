import Wiring.Proofs.ClassPaths

/-!
# Places of classes

The paths of a unit are its places, one for each class, in the order of the tree. Which class stands
at a place does not depend on what the classes are: the classes may be changed at each place, and
the changed ones are found where they were changed, also if they were equal before.

* `LeavesTree`: paths that lead out of the tree; `CompilationUnit.classAt?_eq_none_iff`;
* `ClassDeclaration.relabel`: changing each class by its place;
* **`CompilationUnit.classPaths_correspond`**: paths and classes correspond one to one.
-/

namespace Wiring

/-! ## Leaving the tree -/

/-- On the way down from some classes, an index is that of no class. -/
inductive LeavesTree : List ClassDeclaration → List Nat → Prop
  | missing {classes : List ClassDeclaration} {index : Nat} {rest : List Nat}
    (h : classes.length ≤ index) : LeavesTree classes (index :: rest)
  | deeper {classes : List ClassDeclaration} {index : Nat} {rest : List Nat} {c : ClassDeclaration}
    (hc : classes[index]? = some c) (h : LeavesTree c.nested rest) :
    LeavesTree classes (index :: rest)

theorem leavesTree_cons_iff {classes : List ClassDeclaration} {index : Nat} {rest : List Nat} :
    LeavesTree classes (index :: rest) ↔
      classes[index]? = none ∨ ∃ c, classes[index]? = some c ∧ LeavesTree c.nested rest := by
  rw [List.getElem?_eq_none_iff]
  constructor
  · rintro (h | ⟨hc, h⟩)
    · exact .inl h
    · exact .inr ⟨_, hc, h⟩
  · rintro (h | ⟨c, hc, h⟩)
    · exact .missing h
    · exact .deeper hc h

namespace ClassDeclaration

theorem descend?_eq_none_iff {c : ClassDeclaration} {path : List Nat} :
    c.descend? path = none ↔ LeavesTree c.nested path := by
  induction path generalizing c with
  | nil => exact iff_of_false (by intro h; cases h) (by intro h; cases h)
  | cons index path ih =>
    rw [descend?_cons, leavesTree_cons_iff]
    cases hc : c.nested[index]? with
    | none => simp
    | some d => simp [ih]

/-! ## The order of paths -/

-- A class comes before those nested in it, and its paths before those of the classes after it.
mutual

theorem pairwise_paths (path : List Nat) :
    ∀ c : ClassDeclaration, ((c.paths path).map (·.1)).Pairwise (· < ·)
  | c@⟨_, _, _, _, _, _, _, nested⟩ => by
    rw [paths, List.map_cons, List.pairwise_cons]
    refine ⟨fun p hp => ?_, pairwise_pathsFrom path 0 nested⟩
    obtain ⟨i, rest, rfl⟩ := append_of_mem_map_pathsFrom hp
    have hlonger : path ++ [] < path ++ (0 + i) :: rest :=
      List.append_left_lt (List.nil_lt_cons _ _)
    rwa [List.append_nil] at hlonger
  termination_by structural c => c

theorem pairwise_pathsFrom (path : List Nat) (index : Nat) :
    ∀ classes : List ClassDeclaration,
      ((pathsFrom path index classes).map (·.1)).Pairwise (· < ·)
  | [] => List.Pairwise.nil
  | c :: classes => by
    rw [pathsFrom, List.map_append, List.pairwise_append]
    refine ⟨pairwise_paths (path ++ [index]) c, pairwise_pathsFrom path (index + 1) classes,
      fun p hp q hq => ?_⟩
    obtain ⟨rest, rfl⟩ := append_of_mem_map_paths hp
    obtain ⟨i, rest', rfl⟩ := append_of_mem_map_pathsFrom hq
    rw [List.append_assoc]
    exact List.append_left_lt (List.cons_lt_cons_iff.2 (.inl (by omega)))
  termination_by structural classes => classes

end

/-! ## Changing classes by their places -/

mutual

/-- A class in which each class, at the path that leads to it, is changed, save that the changed
classes stay nested as they were. -/
def relabel (change : List Nat → ClassDeclaration → ClassDeclaration) (path : List Nat) :
    ClassDeclaration → ClassDeclaration
  | c@⟨_, _, _, _, _, _, _, nested⟩ =>
    { change path c with nested := relabelFrom change path 0 nested }
  termination_by structural c => c

/-- The changed classes of a list, of which the first one has the given index. -/
def relabelFrom (change : List Nat → ClassDeclaration → ClassDeclaration) (path : List Nat)
    (index : Nat) : List ClassDeclaration → List ClassDeclaration
  | [] => []
  | c :: rest => c.relabel change (path ++ [index]) :: relabelFrom change path (index + 1) rest
  termination_by structural classes => classes

end

variable (change : List Nat → ClassDeclaration → ClassDeclaration)

theorem relabel_eq (path : List Nat) (c : ClassDeclaration) :
    c.relabel change path =
      { change path c with nested := relabelFrom change path 0 c.nested } := by
  cases c
  rfl

theorem paths_eq (path : List Nat) (c : ClassDeclaration) :
    c.paths path = (path, c) :: pathsFrom path 0 c.nested := by
  cases c
  rfl

mutual

theorem paths_relabel (path : List Nat) :
    ∀ c : ClassDeclaration, (c.relabel change path).paths path =
      (c.paths path).map fun entry => (entry.1, entry.2.relabel change entry.1)
  | ⟨_, _, _, _, _, _, _, nested⟩ => by
    rw [paths_eq, paths, List.map_cons, relabel_eq]
    exact congrArg _ (pathsFrom_relabelFrom path 0 nested)
  termination_by structural c => c

theorem pathsFrom_relabelFrom (path : List Nat) (index : Nat) :
    ∀ classes : List ClassDeclaration,
      pathsFrom path index (relabelFrom change path index classes) =
        (pathsFrom path index classes).map fun entry =>
          (entry.1, entry.2.relabel change entry.1)
  | [] => rfl
  | c :: classes => by
    rw [relabelFrom, pathsFrom, pathsFrom, List.map_append, paths_relabel (path ++ [index]) c,
      pathsFrom_relabelFrom path (index + 1) classes]
  termination_by structural classes => classes

end

end ClassDeclaration

namespace CompilationUnit

variable (unit : CompilationUnit)

theorem classAt?_eq_none_iff {path : List Nat} :
    unit.classAt? path = none ↔ path = [] ∨ LeavesTree unit.classes path := by
  cases path with
  | nil => exact iff_of_true rfl (.inl rfl)
  | cons index path =>
    rw [classAt?_cons, leavesTree_cons_iff]
    cases hc : unit.classes[index]? with
    | none => simp
    | some c => simp [ClassDeclaration.descend?_eq_none_iff]

/-- The unit in which each class is changed by its place. -/
def relabel (change : List Nat → ClassDeclaration → ClassDeclaration) : CompilationUnit :=
  { unit with classes := ClassDeclaration.relabelFrom change [] 0 unit.classes }

variable (change : List Nat → ClassDeclaration → ClassDeclaration)

theorem classPaths_relabel : (unit.relabel change).classPaths =
    unit.classPaths.map fun entry => (entry.1, entry.2.relabel change entry.1) :=
  ClassDeclaration.pathsFrom_relabelFrom change [] 0 unit.classes

theorem classAt?_relabel (path : List Nat) :
    (unit.relabel change).classAt? path =
      (unit.classAt? path).map (·.relabel change path) := by
  refine Option.ext fun c => ?_
  rw [← mem_classPaths, classPaths_relabel, Option.map_eq_some_iff]
  simp [← mem_classPaths]

/-- **Paths and classes correspond one to one.** The listed classes are all classes, in order, and
their paths are different and increasing. A path leads to a class exactly if it is listed with it;
it leads to none exactly if it is empty or leaves the tree. This holds of the places and not only of
what stands there: if each class is changed by its place, the changed classes are listed and found
at the same paths, each as it was changed there. -/
theorem classPaths_correspond :
    unit.classPaths.map (·.2) = unit.allClasses ∧
    (unit.classPaths.map (·.1)).Pairwise (· < ·) ∧ (unit.classPaths.map (·.1)).Nodup ∧
    (∀ path c, unit.classAt? path = some c ↔ (path, c) ∈ unit.classPaths) ∧
    (∀ path, unit.classAt? path = none ↔ path = [] ∨ LeavesTree unit.classes path) ∧
    ∀ change,
      (unit.relabel change).classPaths =
        unit.classPaths.map (fun entry => (entry.1, entry.2.relabel change entry.1)) ∧
      ∀ path, (unit.relabel change).classAt? path =
        (unit.classAt? path).map (·.relabel change path) :=
  ⟨unit.map_snd_classPaths, ClassDeclaration.pairwise_pathsFrom [] 0 unit.classes,
    unit.nodup_classPaths, fun _ _ => mem_classPaths.symm, fun _ => unit.classAt?_eq_none_iff,
    fun change => ⟨unit.classPaths_relabel change, unit.classAt?_relabel change⟩⟩

end CompilationUnit

end Wiring
