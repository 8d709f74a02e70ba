import Wiring.Settings.Layer

/-!
# Values at paths

What is set at a path is found there until something is set above it, below it or at the same place.
Paths that part at a key do not meet, whatever follows.

* `Setting.at?`: the value that keys lead to;
* `Setting.leavesAlone`: steps that part from keys at a key;
* `Setting.at?_setAt?`, `Setting.at?_of_leavesAlone`: setting the value of one path;
* **`Setting.at?_setAll?`**: setting the values of many paths, one after the other.
-/

namespace Wiring.Setting

/-! ## Entries -/

theorem lookup_updateEntry (key : String) (change : Setting → Setting)
    (entries : List (String × Setting)) :
    (updateEntry key change entries).lookup key =
      some (change ((entries.lookup key).getD (table []))) := by
  induction entries with
  | nil => rw [updateEntry, List.lookup_cons_self, List.lookup_nil, Option.getD_none]
  | cons entry rest ih =>
    obtain ⟨other, value⟩ := entry
    rw [updateEntry]
    split
    case isTrue hsame =>
      cases hsame
      rw [List.lookup_cons_self, List.lookup_cons_self, Option.getD_some]
    case isFalse hother =>
      have hbeq : (key == other) = false := beq_false_of_ne (Ne.symm hother)
      rw [List.lookup_cons, List.lookup_cons, hbeq]
      exact ih

theorem lookup_updateEntry_of_ne {key name : String} (h : name ≠ key) (change : Setting → Setting)
    (entries : List (String × Setting)) :
    (updateEntry name change entries).lookup key = entries.lookup key := by
  have hbeq : (key == name) = false := beq_false_of_ne (Ne.symm h)
  induction entries with
  | nil => rw [updateEntry, List.lookup_cons, hbeq]
  | cons entry rest ih =>
    obtain ⟨other, value⟩ := entry
    rw [updateEntry]
    split
    case isTrue hsame =>
      cases hsame
      rw [List.lookup_cons, List.lookup_cons, hbeq]
    case isFalse => rw [List.lookup_cons, List.lookup_cons, ih]

/-! ## Keys that lead to a value -/

/-- The value that keys lead to, through tables only. -/
def at? : List String → Setting → Option Setting
  | [], value => some value
  | key :: keys, value => (value.entries.lookup key).bind (at? keys)

/-- Whether steps part from keys at a key, in whatever case it is written. Steps that end on the way
or go on below the place, or that go on by an index, do not part from the keys. -/
def leavesAlone : List String → List Step → Bool
  | key :: keys, .key name :: steps =>
    if Text.lowerCase name = key then leavesAlone keys steps else true
  | _, _ => false

variable {value below after : Setting} {keys : List String} {steps : List Step}

/-- What keys lead to is below an entry of a table. -/
theorem exists_entry_of_at? {key : String} (h : below.at? (key :: keys) = some value) :
    ∃ entries entry, below = .table entries ∧ entries.lookup key = some entry ∧
      entry.at? keys = some value := by
  obtain ⟨entry, hentry, hvalue⟩ := Option.bind_eq_some_iff.1 h
  cases below with
  | table entries => exact ⟨entries, entry, rfl, hentry, hvalue⟩
  | nothing | bool | int | float | text | list => cases hentry

/-- A value that replaces what was there is found where it was set. -/
theorem at?_setAt? (hvalue : ∀ old : Setting, old.overlay value = value) (hkeys : keys ≠ [])
    (hlower : ∀ key ∈ keys, Text.lowerCase key = key)
    (h : setAt? value (keys.map .key) below = some after) : after.at? keys = some value := by
  induction keys generalizing below after with
  | nil => exact absurd rfl hkeys
  | cons key keys ih =>
    obtain ⟨hkey, hrest⟩ := List.forall_mem_cons.1 hlower
    cases keys with
    | nil =>
      cases h
      rw [at?, updateKey, hkey, entries, lookup_updateEntry, hvalue, Option.bind_some, at?]
    | cons next keys =>
      obtain ⟨part, hpart, hafter⟩ := Option.bind_eq_some_iff.1 h
      cases hafter
      rw [at?, entries, lookup_updateEntry, Option.bind_some]
      exact ih (List.cons_ne_nil next keys) hrest hpart

/-- What keys lead to stays there if a value is set at steps that part from them: above the parting
the way is followed on both sides, at the parting another entry changes. -/
theorem at?_of_leavesAlone (hlower : ∀ key ∈ keys, Text.lowerCase key = key)
    (happart : leavesAlone keys steps) (h : setAt? value steps below = some after) :
    after.at? keys = below.at? keys := by
  induction keys generalizing steps below after with
  | nil => cases happart
  | cons key keys ih =>
    obtain ⟨hkey, hrest⟩ := List.forall_mem_cons.1 hlower
    match steps, happart with
    | [.key name], happart =>
      cases h
      rw [leavesAlone] at happart
      split at happart
      case isTrue => cases keys <;> cases happart
      case isFalse hname =>
        rw [at?, at?, updateKey, entries, lookup_updateEntry_of_ne hname]
    | .key name :: next :: steps, happart =>
      obtain ⟨part, hpart, hafter⟩ := Option.bind_eq_some_iff.1 h
      cases hafter
      rw [at?, at?, entries]
      by_cases hname : name = key
      · subst hname
        rw [leavesAlone, if_pos hkey] at happart
        rw [lookup_updateEntry, Option.bind_some, ih hrest happart hpart]
        cases hold : below.entries.lookup name with
        | some old => rw [Option.getD_some, Option.bind_some]
        | none =>
          cases keys with
          | nil => cases happart
          | cons => rfl
      · rw [lookup_updateEntry_of_ne hname]

/-! ## Sources -/

/-- A source keeps what keys lead to if all of its paths part from them. -/
theorem at?_setAll?_of_leavesAlone {source : List (String × Setting)}
    (hlower : ∀ key ∈ keys, Text.lowerCase key = key)
    (happart : ∀ entry ∈ source, leavesAlone keys (stepsOf (Text.lowerCase entry.1)))
    (h : below.setAll? source = some after) : after.at? keys = below.at? keys := by
  induction source generalizing below with
  | nil => cases h; rfl
  | cons entry source ih =>
    obtain ⟨hentry, hsource⟩ := List.forall_mem_cons.1 happart
    rw [setAll?, List.foldlM_cons] at h
    obtain ⟨next, hnext, hafter⟩ := Option.bind_eq_some_iff.1 h
    exact (ih hsource hafter).trans (at?_of_leavesAlone hlower hentry hnext)

/-- **What a source sets last.** The value of a path is found where it was set, if all paths that
are set later part from it. -/
theorem at?_setAll? {path : String} {before later : List (String × Setting)}
    (hvalue : ∀ old : Setting, old.overlay value = value) (hkeys : keys ≠ [])
    (hlower : ∀ key ∈ keys, Text.lowerCase key = key)
    (hpath : stepsOf (Text.lowerCase path) = keys.map .key)
    (happart : ∀ entry ∈ later, leavesAlone keys (stepsOf (Text.lowerCase entry.1)))
    (h : below.setAll? (before ++ (path, value) :: later) = some after) :
    after.at? keys = some value := by
  rw [setAll?, List.foldlM_append] at h
  obtain ⟨start, -, h⟩ := Option.bind_eq_some_iff.1 h
  rw [List.foldlM_cons] at h
  obtain ⟨next, hnext, hlater⟩ := Option.bind_eq_some_iff.1 h
  rw [set?, hpath] at hnext
  rw [at?_setAll?_of_leavesAlone hlower happart hlater]
  exact at?_setAt? hvalue hkeys hlower hnext

end Wiring.Setting
