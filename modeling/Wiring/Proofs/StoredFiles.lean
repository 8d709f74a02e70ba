import Wiring.FileSystem
import Wiring.Proofs.OutputPaths

/-!
# Files that are kept

Writing a file stores its text under the names that its path leads to and leaves the texts under all
other names as they are, whatever folders are made on the way.

* `FileTree.place`, `FileTree.textAt?`: what a path leads to, and the text read there;
* `FileTree.locate?_mono`, `FileTree.makeFolders_ok`: making folders loses no way;
* **`FileTree.textAt?_write`**, `FileTree.textAt?_write_of_ne`: the text at a path that was written,
  and at all other paths.
-/

namespace Wiring.FileTree

/-! ## Ways to files -/

/-- The names that a path leads to. -/
def place (path : String) : List String := (Path.parts path).foldl next []

variable {tree tree' made : FileTree} {names folder found parts : List String}

theorem locate?_eq_foldl (h : tree.locate? names parts = some found) :
    found = parts.foldl next names := by
  induction parts generalizing names with
  | nil =>
    cases h
    rfl
  | cons part parts ih =>
    rw [locate?] at h
    split at h
    · exact ih h
    · cases h

/-- Names that do not lead back lead one step further each. -/
theorem foldl_next (h : ".." ∉ parts) (names : List String) :
    parts.foldl next names = names ++ parts := by
  induction parts generalizing names with
  | nil => exact (List.append_nil names).symm
  | cons part parts ih =>
    rw [List.mem_cons, not_or] at h
    rw [List.foldl_cons, next, if_neg (Ne.symm h.1), ih h.2, List.append_assoc,
      List.singleton_append]

theorem locate?_append (more : List String) :
    tree.locate? names (parts ++ more) =
      (tree.locate? names parts).bind fun found => tree.locate? found more := by
  induction parts generalizing names with
  | nil => rfl
  | cons part parts ih =>
    rw [List.cons_append, locate?, locate?]
    split
    · exact ih
    · rfl

/-- A way stays where no folder is lost. -/
theorem locate?_mono (hmono : ∀ names, tree.isFolder names → tree'.isFolder names)
    (h : tree.locate? names parts = some found) : tree'.locate? names parts = some found := by
  induction parts generalizing names with
  | nil => exact h
  | cons part parts ih =>
    rw [locate?] at h ⊢
    split at h
    · next hfolder =>
      rw [if_pos (hmono names hfolder)]
      exact ih h
    · cases h

/-! ## Making folders -/

theorem makeFolder_ok {part : String} (h : tree.makeFolder names part = .ok made) :
    made.files = tree.files ∧ made.isFolder names ∧
      ∀ others, tree.isFolder others → made.isFolder others := by
  rw [makeFolder] at h
  split at h
  · next hfolder =>
    cases h
    exact ⟨rfl, hfolder, fun _ hothers => hothers⟩
  · split at h
    · cases h
    · split at h
      · cases h
      · cases h
        refine ⟨rfl, by simp [isFolder], fun others hothers => ?_⟩
        simp only [isFolder, Bool.or_eq_true, List.contains_iff_mem, List.mem_append] at hothers ⊢
        exact hothers.imp_right .inl

/-- The folders that are made lie on the way to the last of them, and nothing else changes. -/
theorem makeFolders_ok (hnames : tree.isFolder names)
    (h : tree.makeFolders names parts = (made, .ok folder)) :
    made.files = tree.files ∧ made.locate? names parts = some folder ∧ made.isFolder folder ∧
      ∀ others, tree.isFolder others → made.isFolder others := by
  induction parts generalizing tree names with
  | nil =>
    cases h
    exact ⟨rfl, rfl, hnames, fun _ hothers => hothers⟩
  | cons part parts ih =>
    rw [makeFolders] at h
    split at h
    · cases h
    · next first hfirst =>
      obtain ⟨hfiles, hnext, hkept⟩ := makeFolder_ok hfirst
      obtain ⟨hfiles', hlocate, hfolder, hkept'⟩ := ih hnext h
      refine ⟨hfiles'.trans hfiles, ?_, hfolder, fun others hothers => hkept' _ (hkept _ hothers)⟩
      rw [locate?, if_pos (hkept' _ (hkept _ hnames))]
      exact hlocate

/-! ## Storing a text -/

theorem lookup_cons_of_ne {others : List String} {entry : List String × String}
    (h : others ≠ entry.1) (files : List (List String × String)) :
    List.lookup others (entry :: files) = files.lookup others := by
  rw [List.lookup_cons, beq_false_of_ne h]

theorem lookup_putFile_self (names : List String) (content : String)
    (files : List (List String × String)) :
    (putFile names content files).lookup names = some content := by
  induction files with
  | nil => exact List.lookup_cons_self
  | cons entry rest ih =>
    rw [putFile]
    split
    · exact List.lookup_cons_self
    · next hentry => rw [lookup_cons_of_ne (Ne.symm hentry), ih]

theorem lookup_putFile_of_ne {names others : List String} (h : others ≠ names) (content : String)
    (files : List (List String × String)) :
    (putFile names content files).lookup others = files.lookup others := by
  induction files with
  | nil => exact lookup_cons_of_ne h []
  | cons entry rest ih =>
    rw [putFile]
    split
    · next hentry => rw [lookup_cons_of_ne h, lookup_cons_of_ne (hentry ▸ h)]
    · rw [List.lookup_cons, List.lookup_cons, ih]

theorem store_ok {name content : String} {stored : FileTree}
    (h : tree.store names name content = .ok stored) :
    stored = { tree with files := putFile names content tree.files } := by
  rw [store] at h
  split at h
  · cases h
  · split at h
    · cases h
    · split at h
      · cases h
      · cases h
        rfl

/-- The last part of a path that does not end in a folder leads one step further. -/
theorem next_last {path name : String} (hend : endsInFolder path = false)
    (h : (Path.parts path).getLast? = some name) (names : List String) :
    next names name = names ++ [name] := by
  have hlast := List.getLast?_eq_some_getLast (Text.segments_ne_nil '/' path)
  rw [endsInFolder, hlast] at hend
  obtain ⟨start, hstart⟩ := List.getLast?_eq_some_iff.1 hlast
  generalize (Text.segments '/' path).getLast (Text.segments_ne_nil '/' path) = last at hend hstart
  simp only [Bool.or_eq_false_iff, decide_eq_false_iff_not] at hend
  obtain ⟨⟨hempty, hdot⟩, hdots⟩ := hend
  have hparts : Path.parts path = (Path.parts path).dropLast ++ [last] := by
    simp [Path.parts, hstart, hempty, hdot]
  rw [hparts, List.getLast?_concat, Option.some_inj] at h
  subst h
  rw [next, if_neg hdots]

/-- A path whose folder was made and whose text was stored there leads to that text. -/
theorem put_ok {path content : String} {stored : FileTree}
    (hlocate : tree.locate? [] (Path.parts path).dropLast = some folder)
    (hfolder : tree.isFolder folder) (h : tree.put folder path content = .ok stored) :
    endsInFolder path = false ∧ stored.folders = tree.folders ∧
      stored.locate? [] (Path.parts path) = some (place path) ∧
      stored.files = putFile (place path) content tree.files := by
  rw [put] at h
  split at h
  · cases h
  · next name hname =>
    split at h
    · cases h
    · next hend =>
      rw [Bool.not_eq_true] at hend
      obtain rfl := store_ok h
      obtain ⟨before, hbefore⟩ := List.getLast?_eq_some_iff.1 hname
      rw [hbefore, List.dropLast_concat] at hlocate
      have hway : tree.locate? [] (Path.parts path) = some (folder ++ [name]) := by
        rw [hbefore, locate?_append, hlocate, Option.bind_some, locate?, if_pos hfolder,
          next_last hend hname]
        rfl
      have hplace : folder ++ [name] = place path := locate?_eq_foldl hway
      rw [hplace] at hway ⊢
      refine ⟨hend, rfl, ?_, rfl⟩
      refine locate?_mono (fun names hnames => ?_) hway
      exact hnames

/-! ## Writing and reading -/

variable {workingFolder path content : String} {written : FileTree}

/-- A file that is written is there under the names that its path leads to, and no other file and
no folder is lost. -/
theorem write_ok (h : tree.write workingFolder path content = (written, .ok ())) :
    isPathTooLong path = false ∧ endsInFolder (Path.push workingFolder path) = false ∧
      written.locate? [] (Path.parts (Path.push workingFolder path)) =
        some (place (Path.push workingFolder path)) ∧
      written.files = putFile (place (Path.push workingFolder path)) content tree.files ∧
      ∀ names, tree.isFolder names → written.isFolder names := by
  rw [write] at h
  split at h
  · cases h
  · dsimp only at h
    split at h
    · cases h
    · next made folder hway =>
      rw [makeWay] at hway
      split at hway
      · cases hway
      · obtain ⟨hfiles, hlocate, hfolder, hkept⟩ := makeFolders_ok rfl hway
        split at h
        · cases h
        · next hlong =>
          split at h
          · cases h
          · next stored hput =>
            cases h
            obtain ⟨hend, hfolders, hfound, hstored⟩ := put_ok hlocate hfolder hput
            refine ⟨by simpa using hlong, hend, hfound, hfiles ▸ hstored, fun names hnames => ?_⟩
            rw [isFolder, hfolders]
            exact hkept names hnames

/-- The text that is read at a path. -/
def textAt? (tree : FileTree) (workingFolder path : String) : Option String :=
  (((fileSystem workingFolder).read path).run tree).1

theorem textAt?_eq (tree : FileTree) (workingFolder path : String) :
    tree.textAt? workingFolder path =
      if isPathTooLong path then none else tree.read? (Path.push workingFolder path) := by
  rw [textAt?, fileSystem]
  dsimp only
  split <;> rfl

/-- **The text at a path that was written** is the one that was written there. -/
theorem textAt?_write (h : tree.write workingFolder path content = (written, .ok ())) :
    written.textAt? workingFolder path = some content := by
  obtain ⟨hlong, hend, hlocate, hfiles, -⟩ := write_ok h
  rw [textAt?_eq, hlong, if_neg Bool.false_ne_true, read?, hend, if_neg Bool.false_ne_true,
    hlocate, Option.bind_some, content?, hfiles, lookup_putFile_self]

/-- **The text at any other path** stays, if the two lead to different names. -/
theorem textAt?_write_of_ne {other text : String}
    (h : tree.write workingFolder path content = (written, .ok ()))
    (hne : place (Path.push workingFolder other) ≠ place (Path.push workingFolder path))
    (hread : tree.textAt? workingFolder other = some text) :
    written.textAt? workingFolder other = some text := by
  obtain ⟨-, -, -, hfiles, hkept⟩ := write_ok h
  rw [textAt?_eq] at hread ⊢
  split at hread
  · cases hread
  · next hlong =>
    rw [if_neg hlong]
    rw [read?] at hread ⊢
    split at hread
    · cases hread
    · next hend =>
      rw [if_neg hend]
      obtain ⟨names, hlocate, hcontent⟩ := Option.bind_eq_some_iff.1 hread
      have hplace : names = place (Path.push workingFolder other) := locate?_eq_foldl hlocate
      rw [locate?_mono hkept hlocate, Option.bind_some, content?, hfiles,
        lookup_putFile_of_ne (hplace ▸ hne)]
      exact hcontent

end Wiring.FileTree
