import Mathlib.Data.List.Forall2
import Mathlib.Data.List.Nodup
import Wiring.Json.Record
import Wiring.Proofs.CorpusReading

/-!
# Members of objects

What is read of an object depends on which values its keys have. That a record can be read at all
depends on its keys, and a field of it on the member of its key.

* `mapM_eq_ite`: reading all members of a list;
* `lookup_eq_of_perm`: the order of members does not matter to a lookup;
* `Json.isSome_ofMembers?`, `Json.lookup_ofMembers?`: when there is a record, and its fields;
* `Json.lookup_zip`: the fields of a record that is written as an array;
* `NameMap.ofList_eq_of_perm`: the order of entries with distinct keys does not matter to a map.
-/

namespace Wiring

/-! ## Lists -/

/-- Work that may give nothing is done on a list if it gives something for every member. -/
theorem mapM_eq_ite {α β : Type} (f : α → Option β) (list : List α) :
    list.mapM f = if ∀ a ∈ list, (f a).isSome then some (list.filterMap f) else none := by
  induction list with
  | nil => rfl
  | cons a rest ih =>
    rw [List.mapM_cons, ih]
    simp only [List.forall_mem_cons]
    cases hfa : f a with
    | none => rfl
    | some b =>
      rw [List.filterMap_cons_some hfa]
      by_cases hrest : ∀ a ∈ rest, (f a).isSome
      · rw [if_pos hrest, if_pos ⟨rfl, hrest⟩]
        rfl
      · rw [if_neg hrest, if_neg fun h => hrest h.2]
        rfl

theorem mapM_congr_forall₂ {α β γ : Type} {f : α → Option γ} {g : β → Option γ} {a : List α}
    {b : List β} (h : List.Forall₂ (fun x y => f x = g y) a b) : a.mapM f = b.mapM g := by
  induction h with
  | nil => rfl
  | cons hhead _ ih => rw [List.mapM_cons, List.mapM_cons, hhead, ih]

theorem lookup_eq_none_of_not_mem {α β : Type} [BEq α] [LawfulBEq α] {list : List (α × β)} {a : α}
    (h : a ∉ list.map Prod.fst) : list.lookup a = none := by
  rw [List.lookup_eq_none_iff]
  intro entry hentry
  rw [bne_iff_ne]
  rintro rfl
  exact h (List.mem_map_of_mem hentry)

namespace Json

variable {members members' : List (Quoted × Json)} {known : List String} {key : String}

/-! ## Order -/

/-- The order of members does not matter to a lookup, if no key is repeated. -/
theorem lookup_eq_of_perm (h : members.Perm members')
    (hnodup : (members.filterMap Prod.fst).Nodup) :
    members.lookup (some key) = members'.lookup (some key) := by
  induction h with
  | nil => rfl
  | cons member _ ih =>
    obtain ⟨own, value⟩ := member
    have hrest := hnodup.sublist ((List.sublist_cons_self _ _).filterMap Prod.fst)
    rw [List.lookup_cons, List.lookup_cons, ih hrest]
  | swap first second rest =>
    obtain ⟨a, v⟩ := first
    obtain ⟨b, w⟩ := second
    simp only [List.lookup_cons]
    by_cases ha : some key = a
    · by_cases hb : some key = b
      · subst ha hb
        simp at hnodup
      · rw [beq_false_of_ne hb]
    · rw [beq_false_of_ne ha]
  | trans hfirst _ ih ih' =>
    exact (ih hnodup).trans (ih' ((hfirst.filterMap Prod.fst).nodup_iff.1 hnodup))

/-! ## Records -/

/-- The members that have proper keys. -/
def proper (members : List (Quoted × Json)) : Record :=
  members.filterMap fun member => member.1.map (·, member.2)

theorem map_fst_proper (members : List (Quoted × Json)) :
    (proper members).map Prod.fst = members.filterMap Prod.fst := by
  rw [proper, List.map_filterMap]
  refine List.filterMap_congr fun member _ => ?_
  cases member.1 <;> rfl

theorem ofMembers?_eq (known : List String) (members : List (Quoted × Json)) :
    ofMembers? known members =
      if (∀ member ∈ members, member.1.isSome) ∧
          ((members.filterMap Prod.fst).filter known.contains).Nodup then
        some ((proper members).filter (known.contains ·.1))
      else none := by
  have hkeys : ((proper members).filter (known.contains ·.1)).map Prod.fst =
      (members.filterMap Prod.fst).filter known.contains := by
    rw [← map_fst_proper, List.filter_map]
    rfl
  rw [ofMembers?, mapM_eq_ite, ← hkeys]
  simp only [Option.isSome_map]
  by_cases hproper : ∀ member ∈ members, member.1.isSome
  · rw [if_pos hproper]
    simp only [and_iff_right hproper]
    rfl
  · rw [if_neg hproper, if_neg fun h => hproper h.1]
    rfl

/-- There is a record if all keys are proper and no known one is repeated. -/
theorem isSome_ofMembers? :
    (ofMembers? known members).isSome ↔
      (∀ key ∈ members.map Prod.fst, key.isSome) ∧
        (((members.map Prod.fst).filterMap id).filter known.contains).Nodup := by
  rw [ofMembers?_eq, List.forall_mem_map, List.filterMap_map, Function.id_comp]
  split
  · next h => exact iff_of_true rfl h
  · next h => exact iff_of_false (by simp) h

theorem lookup_proper (members : List (Quoted × Json)) (key : String) :
    (proper members).lookup key = members.lookup (some key) := by
  induction members with
  | nil => rfl
  | cons member rest ih =>
    obtain ⟨own, value⟩ := member
    cases own with
    | none =>
      rw [List.lookup_cons, ← ih]
      rfl
    | some own =>
      have hcons : proper ((some own, value) :: rest) = (own, value) :: proper rest := rfl
      rw [hcons, List.lookup_cons, List.lookup_cons, ih]
      rfl

theorem lookup_filter_of_mem {record : Record} (hkey : key ∈ known) :
    (record.filter (known.contains ·.1)).lookup key = record.lookup key := by
  induction record with
  | nil => rfl
  | cons field rest ih =>
    obtain ⟨own, value⟩ := field
    rw [List.filter_cons]
    by_cases hown : known.contains own
    · rw [if_pos hown, List.lookup_cons, List.lookup_cons, ih]
    · have hne : key ≠ own := fun heq => hown (heq ▸ List.contains_iff_mem.2 hkey)
      rw [if_neg hown, List.lookup_cons, beq_false_of_ne hne, ih]

/-- A known field of a record is the member of its key. -/
theorem lookup_ofMembers? {record : Record} (h : ofMembers? known members = some record)
    (hkey : key ∈ known) : record.lookup key = members.lookup (some key) := by
  rw [ofMembers?_eq] at h
  split at h
  · cases h
    rw [lookup_filter_of_mem hkey, lookup_proper]
  · cases h

/-- A field of a record that is written as an array is the item at its place. -/
theorem lookup_zip {keys : List String} (hnodup : keys.Nodup) {index : Nat}
    (hkey : keys[index]? = some key) (items : List Json) :
    (keys.zip items).lookup key = items[index]? := by
  induction keys generalizing index items with
  | nil => cases hkey
  | cons own rest ih =>
    obtain ⟨hown, hrest⟩ := List.nodup_cons.1 hnodup
    cases items with
    | nil => rfl
    | cons item items =>
      rw [List.zip_cons_cons, List.lookup_cons]
      cases index with
      | zero =>
        cases hkey
        rw [beq_self_eq_true]
        rfl
      | succ index =>
        have hne : key ≠ own := by
          rintro rfl
          exact hown (List.mem_of_getElem? hkey)
        rw [beq_false_of_ne hne]
        exact ih hrest hkey items

end Json

/-! ## Maps from names -/

theorem insertEntry_perm {α : Type} {key : QualifiedName} (value : α)
    {entries : List (QualifiedName × α)} (h : key ∉ entries.map Prod.fst) :
    (insertEntry key value entries).Perm ((key, value) :: entries) := by
  induction entries with
  | nil => exact .refl _
  | cons entry rest ih =>
    rw [List.map_cons, List.mem_cons, not_or] at h
    rw [insertEntry]
    split
    · exact .refl _
    · next hnot =>
      split
      · exact ((ih h.2).cons entry).trans (.swap _ _ _)
      · next hnot' => exact absurd (QualifiedName.eq_of_not_lt hnot hnot') h.1

/-- If no key is repeated, all entries are kept. -/
theorem NameMap.entries_ofList_perm {α : Type} {entries : List (QualifiedName × α)}
    (h : (entries.map Prod.fst).Nodup) : (NameMap.ofList entries).entries.Perm entries := by
  have hfold : ∀ (entries : List (QualifiedName × α)) (start : NameMap α),
      ((start.entries ++ entries).map Prod.fst).Nodup →
        (entries.foldl (fun map entry => map.insert entry.1 entry.2) start).entries.Perm
          (start.entries ++ entries) := by
    intro entries
    induction entries with
    | nil => simp
    | cons entry rest ih =>
      intro start hnodup
      have hfresh : entry.1 ∉ start.entries.map Prod.fst := by
        rw [List.map_append, List.map_cons] at hnodup
        exact fun hmem => List.disjoint_of_nodup_append hnodup hmem List.mem_cons_self
      have hinsert : ((start.insert entry.1 entry.2).entries ++ rest).Perm
          (start.entries ++ entry :: rest) :=
        ((insertEntry_perm entry.2 hfresh).append_right rest).trans List.perm_middle.symm
      rw [List.foldl_cons]
      exact (ih _ ((hinsert.map Prod.fst).nodup_iff.2 hnodup)).trans hinsert
  exact hfold entries .empty h

/-- The order of entries does not matter to a map, if no key is repeated. -/
theorem NameMap.ofList_eq_of_perm {α : Type} {entries entries' : List (QualifiedName × α)}
    (hperm : entries.Perm entries') (h : (entries.map Prod.fst).Nodup) :
    NameMap.ofList entries = NameMap.ofList entries' := by
  have hentries : (NameMap.ofList entries).entries.Perm (NameMap.ofList entries').entries :=
    ((entries_ofList_perm h).trans hperm).trans
      (entries_ofList_perm ((hperm.map Prod.fst).nodup_iff.1 h)).symm
  refine NameMap.eq_of_entries (hentries.eq_of_pairwise (fun a b _ _ hab hba => ?_)
    (NameMap.sorted _) (NameMap.sorted _))
  exact absurd (QualifiedName.lt_trans hab hba) (QualifiedName.not_lt_self a.1)

end Wiring
