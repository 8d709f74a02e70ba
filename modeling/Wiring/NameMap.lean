import Wiring.QualifiedName

/-!
# Maps from names

Finite maps whose keys are qualified names, listed in the order of the names, each key once.

* `NameMap`, `NameMap.insert`, `NameMap.ofList`: the maps, where a later entry replaces an earlier
  one;
* `sortedNames`: the distinct names of a list in order.
-/

namespace Wiring

variable {α : Type}

/-- Put an entry at the place of its key in a list sorted by keys. -/
def insertEntry (key : QualifiedName) (value : α) :
    List (QualifiedName × α) → List (QualifiedName × α)
  | [] => [(key, value)]
  | entry :: rest =>
    if key < entry.1 then (key, value) :: entry :: rest
    else if entry.1 < key then entry :: insertEntry key value rest
    else (key, value) :: rest

theorem mem_insertEntry {key : QualifiedName} {value : α} {entries : List (QualifiedName × α)}
    {entry : QualifiedName × α} (h : entry ∈ insertEntry key value entries) :
    entry = (key, value) ∨ entry ∈ entries := by
  induction entries with
  | nil => simpa [insertEntry] using h
  | cons head rest ih =>
    rw [insertEntry] at h
    split at h
    · simpa using h
    · split at h
      · rcases List.mem_cons.1 h with h | h
        · simp [h]
        · rcases ih h with h | h <;> simp [h]
      · rcases List.mem_cons.1 h with h | h <;> simp [h]

theorem pairwise_insertEntry {key : QualifiedName} {value : α}
    {entries : List (QualifiedName × α)} (h : entries.Pairwise (·.1 < ·.1)) :
    (insertEntry key value entries).Pairwise (·.1 < ·.1) := by
  induction entries with
  | nil => simp [insertEntry]
  | cons head rest ih =>
    obtain ⟨hhead, hrest⟩ := List.pairwise_cons.1 h
    rw [insertEntry]
    split
    · next hlt =>
      refine List.pairwise_cons.2 ⟨fun entry hentry => ?_, h⟩
      rcases List.mem_cons.1 hentry with rfl | hentry
      · exact hlt
      · exact QualifiedName.lt_trans hlt (hhead entry hentry)
    · split
      · next hlt =>
        refine List.pairwise_cons.2 ⟨fun entry hentry => ?_, ih hrest⟩
        rcases mem_insertEntry hentry with rfl | hentry
        · exact hlt
        · exact hhead entry hentry
      · next h1 h2 =>
        have heq : key = head.1 := QualifiedName.eq_of_not_lt h1 h2
        exact List.pairwise_cons.2 ⟨fun entry hentry => heq ▸ hhead entry hentry, hrest⟩

/-- A finite map from names, listed in the order of its keys. -/
structure NameMap (α : Type) where
  entries : List (QualifiedName × α)
  sorted : entries.Pairwise (·.1 < ·.1)

namespace NameMap

instance [BEq α] : BEq (NameMap α) := ⟨fun a b => a.entries == b.entries⟩

/-- The map without entries. -/
def empty : NameMap α := ⟨[], .nil⟩

instance : Inhabited (NameMap α) := ⟨empty⟩

/-- Set the value of a key. -/
def insert (map : NameMap α) (key : QualifiedName) (value : α) : NameMap α :=
  ⟨insertEntry key value map.entries, pairwise_insertEntry map.sorted⟩

/-- The map of a list of entries, of which later ones replace earlier ones. -/
def ofList (entries : List (QualifiedName × α)) : NameMap α :=
  entries.foldl (fun map entry => map.insert entry.1 entry.2) empty

end NameMap

/-- The distinct names of a list, in order. -/
def sortedNames (names : List QualifiedName) : List QualifiedName :=
  (NameMap.ofList (names.map (·, ()))).entries.map (·.1)

end Wiring
