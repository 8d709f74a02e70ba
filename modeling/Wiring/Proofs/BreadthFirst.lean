import Mathlib.Data.Set.Finite.Basic
import Mathlib.Order.Lattice.Nat
import Wiring.Proofs.Closure

/-!
# Breadth-first order

A search finds nearer names before names that are farther away, and asks for the supertypes of each
type once. It ends if it can reach finitely many names only, whatever cycles there are.

* `PathTo`, `distance`: paths along direct supertypes, and the length of the shortest one;
* `Levels`: the queue of a search holds the rest of one level and what is known of the next one;
  `pairwise_of_explore`: the order that follows;
* `exploreAsking`, `noted`: the search with a note of every question that it asks;
* `explore_eq_ite`: a search takes one step for each supertype in its answers;
* **`exists_isBreadthFirst`**: what a search finds.
-/

namespace Wiring

variable {supertypes : QualifiedName → List QualifiedName} {start current n : QualifiedName}
  {steps level : Nat} {found queue now next result : List QualifiedName}

/-! ## Distances -/

/-- A path of a number of steps leads from a name to another one, each step to a direct
supertype. -/
inductive PathTo (supertypes : QualifiedName → List QualifiedName) (start : QualifiedName) :
    Nat → QualifiedName → Prop
  | start : PathTo supertypes start 0 start
  | step {length : Nat} {a b : QualifiedName} (path : PathTo supertypes start length a)
    (last : b ∈ supertypes a) : PathTo supertypes start (length + 1) b

/-- The length of the shortest path. -/
noncomputable def distance (supertypes : QualifiedName → List QualifiedName)
    (start n : QualifiedName) : Nat :=
  sInf {length | PathTo supertypes start length n}

theorem PathTo.distance_le (h : PathTo supertypes start level n) :
    distance supertypes start n ≤ level := Nat.sInf_le h

theorem PathTo.shortest (h : PathTo supertypes start level n) :
    PathTo supertypes start (distance supertypes start n) n :=
  Nat.sInf_mem (s := {length | PathTo supertypes start length n}) ⟨level, h⟩

/-! ## Levels of a search -/

/-- A search is at a level if it has found all names that are nearer and if its queue is what is
left of the names at this distance, then supertypes of names at this distance. -/
structure Levels (supertypes : QualifiedName → List QualifiedName) (start : QualifiedName)
    (level : Nat) (found now next : List QualifiedName) : Prop where
  covers : Covers supertypes start found (now ++ next)
  nearer : ∀ length < level, ∀ n, PathTo supertypes start length n → n ∈ start :: found
  here : ∀ n, PathTo supertypes start level n → n ∈ start :: found ∨ n ∈ now
  now_path : ∀ n ∈ now, PathTo supertypes start level n
  next_path : ∀ n ∈ next, PathTo supertypes start (level + 1) n
  found_le : ∀ n ∈ found, distance supertypes start n ≤ level
  sorted : found.Pairwise fun a b => distance supertypes start a ≤ distance supertypes start b

namespace Levels

/-- The start is alone at distance 0. -/
theorem first : Levels supertypes start 0 [] [] (supertypes start) where
  covers a ha b hb := .inr (List.mem_singleton.1 ha ▸ hb)
  nearer length hlength := absurd hlength (Nat.not_lt_zero length)
  here n hn := by
    cases hn
    exact .inl (List.mem_singleton_self start)
  now_path n hn := absurd hn List.not_mem_nil
  next_path n hn := .step .start hn
  found_le n hn := absurd hn List.not_mem_nil
  sorted := .nil

/-- Once nothing is left of a level, all of it is found and the next one begins. -/
theorem advance (h : Levels supertypes start level found [] next) :
    Levels supertypes start (level + 1) found next [] where
  covers := by simpa using h.covers
  nearer length hlength n hn := by
    rcases Nat.lt_succ_iff_lt_or_eq.1 hlength with hless | rfl
    · exact h.nearer length hless n hn
    · exact (h.here n hn).resolve_right List.not_mem_nil
  here n hn := by
    cases hn with
    | step path last => exact h.covers _ ((h.here _ path).resolve_right List.not_mem_nil) n last
  now_path := h.next_path
  next_path n hn := absurd hn List.not_mem_nil
  found_le n hn := Nat.le_succ_of_le (h.found_le n hn)
  sorted := h.sorted

/-- The first name of the queue belongs to the level, or the next level begins with it. -/
theorem exists_cons (h : ∃ level now next, current :: queue = now ++ next ∧
      Levels supertypes start level found now next) :
    ∃ level now next, queue = now ++ next ∧
      Levels supertypes start level found (current :: now) next := by
  obtain ⟨level, now, next, hqueue, hlevels⟩ := h
  cases now with
  | nil =>
    rw [List.nil_append] at hqueue
    subst hqueue
    exact ⟨level + 1, queue, [], (List.append_nil queue).symm, hlevels.advance⟩
  | cons a now =>
    obtain ⟨rfl, rfl⟩ := List.cons.inj hqueue
    exact ⟨level, now, next, rfl, hlevels⟩

theorem skip (h : Levels supertypes start level found (current :: now) next)
    (hseen : current ∈ start :: found) : Levels supertypes start level found now next where
  covers := h.covers.skip hseen
  nearer := h.nearer
  here n hn := by
    rcases h.here n hn with hfound | hnow
    · exact .inl hfound
    · rcases List.mem_cons.1 hnow with rfl | hnow
      · exact .inl hseen
      · exact .inr hnow
  now_path n hn := h.now_path n (List.mem_cons_of_mem current hn)
  next_path := h.next_path
  found_le := h.found_le
  sorted := h.sorted

/-- A name of the level that was not found before is as far away as the level. -/
theorem distance_eq (h : Levels supertypes start level found (current :: now) next)
    (hnew : current ∉ start :: found) : distance supertypes start current = level := by
  have hpath := h.now_path current List.mem_cons_self
  refine Nat.le_antisymm hpath.distance_le (Nat.le_of_not_lt fun hless => hnew ?_)
  exact h.nearer _ hless current hpath.shortest

theorem find (h : Levels supertypes start level found (current :: now) next)
    (hnew : current ∉ start :: found) :
    Levels supertypes start level (found ++ [current]) now (next ++ supertypes current) where
  covers := by simpa using h.covers.find
  nearer length hlength n hn := by
    rw [← List.cons_append]
    exact List.mem_append_left _ (h.nearer length hlength n hn)
  here n hn := by
    rw [← List.cons_append, List.mem_append, List.mem_singleton, or_assoc, ← List.mem_cons]
    exact h.here n hn
  now_path n hn := h.now_path n (List.mem_cons_of_mem current hn)
  next_path n hn := by
    rcases List.mem_append.1 hn with hn | hn
    · exact h.next_path n hn
    · exact .step (h.now_path current List.mem_cons_self) hn
  found_le n hn := by
    rcases List.mem_append.1 hn with hn | hn
    · exact h.found_le n hn
    · rw [List.mem_singleton.1 hn, h.distance_eq hnew]
  sorted := by
    refine List.pairwise_append.2 ⟨h.sorted, List.pairwise_singleton _ _, fun a ha b hb => ?_⟩
    rw [List.mem_singleton.1 hb, h.distance_eq hnew]
    exact h.found_le a ha

end Levels

/-- **What a search finds stands in the order of distances.** -/
theorem pairwise_of_explore
    (h : explore supertypes start steps [] (supertypes start) = some result) :
    result.Pairwise fun a b => distance supertypes start a ≤ distance supertypes start b := by
  have hend := explore_invariant (I := fun found queue => ∃ level now next, queue = now ++ next ∧
    Levels supertypes start level found now next) (fun hseen hI => ?_) (fun hnew hI => ?_)
    ⟨0, [], supertypes start, rfl, Levels.first⟩ h
  · obtain ⟨level, now, next, -, hlevels⟩ := hend
    exact hlevels.sorted
  · obtain ⟨level, now, next, hqueue, hlevels⟩ := Levels.exists_cons hI
    exact ⟨level, now, next, hqueue, hlevels.skip hseen⟩
  · obtain ⟨level, now, next, rfl, hlevels⟩ := Levels.exists_cons hI
    exact ⟨level, now, next ++ _, List.append_assoc _ _ _, hlevels.find hnew⟩

/-! ## Questions -/

section

variable {m : Type → Type} [Monad m]

/-- The search of `explore`, which asks for the supertypes of each type that it finds. -/
def exploreAsking (ask : QualifiedName → m (List QualifiedName)) (start : QualifiedName) :
    Nat → List QualifiedName → List QualifiedName → m (Option (List QualifiedName))
  | _, found, [] => pure (some found)
  | 0, _, _ :: _ => pure none
  | steps + 1, found, current :: queue =>
    if current = start ∨ current ∈ found then exploreAsking ask start steps found queue
    else do
      let more ← ask current
      exploreAsking ask start steps (found ++ [current]) (queue ++ more)

/-- All that can be reached from a type, whose supertypes are asked for first. -/
def closureAsking (ask : QualifiedName → m (List QualifiedName)) (start : QualifiedName)
    (steps : Nat) : m (Option (List QualifiedName)) := do
  let queue ← ask start
  exploreAsking ask start steps [] queue

/-- Where nothing is noted, asking is looking up. -/
theorem exploreAsking_pure [LawfulMonad m] :
    exploreAsking (m := m) (fun type => pure (supertypes type)) start steps found queue =
      pure (explore supertypes start steps found queue) := by
  induction steps generalizing found queue with
  | zero => cases queue <;> rfl
  | succ steps ih =>
    cases queue with
    | nil => rfl
    | cons current queue =>
      rw [exploreAsking, explore]
      split
      · exact ih
      · rw [pure_bind]
        exact ih

end

/-- The supertypes of a type, with a note that they were asked for. -/
def noted (supertypes : QualifiedName → List QualifiedName) (type : QualifiedName) :
    StateM (List QualifiedName) (List QualifiedName) := do
  modify (· ++ [type])
  return supertypes type

/-- A search asks for the supertypes of what it finds, in this order. -/
theorem exploreAsking_noted (h : explore supertypes start steps found queue = some result) :
    (exploreAsking (noted supertypes) start steps found queue).run (start :: found) =
      (some result, start :: result) := by
  induction steps generalizing found queue with
  | zero =>
    cases queue with
    | nil =>
      cases h
      rfl
    | cons current queue => cases h
  | succ steps ih =>
    cases queue with
    | nil =>
      cases h
      rfl
    | cons current queue =>
      rw [exploreAsking]
      by_cases hseen : current ∈ start :: found
      · rw [explore_of_mem hseen] at h
        rw [if_pos (List.mem_cons.1 hseen)]
        exact ih h
      · rw [explore_of_not_mem hseen] at h
        rw [if_neg (mt List.mem_cons.2 hseen)]
        exact ih h

/-! ## Steps -/

theorem prefix_of_explore (h : explore supertypes start steps found queue = some result) :
    found <+: result := by
  refine explore_invariant (I := fun more _ => found <+: more) (fun _ hI => hI) (fun _ hI => ?_)
    List.prefix_rfl h
  exact hI.trans (List.prefix_append _ _)

/-- A search that ends takes one step for each name that is in its queue or gets there, and ends in
the same way if it may take more. -/
theorem explore_eq_ite (h : explore supertypes start steps found queue = some result)
    (limit : Nat) :
    explore supertypes start limit found queue =
      if queue.length + (result.flatMap supertypes).length ≤
        (found.flatMap supertypes).length + limit then some result else none := by
  -- Every step takes a name off the queue; a name that is found puts as many there as it adds to
  -- the supertypes of all that is found.
  induction steps generalizing found queue limit with
  | zero =>
    cases queue with
    | nil =>
      cases h
      simp [explore]
    | cons current queue => cases h
  | succ steps ih =>
    cases queue with
    | nil =>
      cases h
      simp [explore]
    | cons current queue =>
      have hprefix : (found.flatMap supertypes).length ≤ (result.flatMap supertypes).length := by
        obtain ⟨more, rfl⟩ := prefix_of_explore h
        rw [List.flatMap_append, List.length_append]
        omega
      cases limit with
      | zero =>
        rw [explore, if_neg]
        rw [List.length_cons]
        omega
      | succ limit =>
        by_cases hseen : current ∈ start :: found
        · rw [explore_of_mem hseen] at h ⊢
          rw [ih h]
          congr 1
          rw [List.length_cons]
          exact propext (by omega)
        · rw [explore_of_not_mem hseen] at h ⊢
          rw [ih h]
          congr 1
          simp only [List.length_cons, List.length_append, List.flatMap_append,
            List.flatMap_singleton]
          exact propext (by omega)

/-! ## Searches that end -/

/-- Searches along relations that agree on all that gets into the queue are the same. -/
theorem explore_congr {other : QualifiedName → List QualifiedName} {P : QualifiedName → Prop}
    (hstep : ∀ a, P a → ∀ b ∈ supertypes a, P b) (hsame : ∀ a, P a → other a = supertypes a)
    (hqueue : ∀ a ∈ queue, P a) :
    explore other start steps found queue = explore supertypes start steps found queue := by
  induction steps generalizing found queue with
  | zero => cases queue <;> rfl
  | succ steps ih =>
    cases queue with
    | nil => rfl
    | cons current queue =>
      obtain ⟨hcurrent, hqueue⟩ := List.forall_mem_cons.1 hqueue
      rw [explore, explore]
      split
      · exact ih hqueue
      · rw [hsame current hcurrent]
        exact ih (List.forall_mem_append.2 ⟨hqueue, hstep current hcurrent⟩)

/-- A search ends if finitely many names can be reached: it is the search in their table. -/
theorem exists_explore
    (hfinite : {n | Relation.TransGen (fun a b => b ∈ supertypes a) start n}.Finite) :
    ∃ steps result, explore supertypes start steps [] (supertypes start) = some result := by
  -- The edges in the table of all that can be reached bound the steps.
  let table : Hierarchy := ⟨hfinite.toFinset.toList.map fun n => (n, supertypes n)⟩
  have hsame : ∀ a, Relation.TransGen (fun a b => b ∈ supertypes a) start a →
      table.supertypes a = supertypes a := by
    intro a ha
    rw [Hierarchy.supertypes, List.lookup_graph supertypes (by simpa using ha), Option.getD_some]
  have hsome : (explore table.supertypes start
      ((supertypes start).length + remaining [start] table.edges) [] (supertypes start)).isSome :=
    explore_isSome table (Nat.le_refl _)
  obtain ⟨result, hresult⟩ := Option.isSome_iff_exists.1 hsome
  rw [explore_congr (fun a ha b hb => ha.tail hb) hsame fun a ha => .single ha] at hresult
  exact ⟨_, result, hresult⟩

theorem Hierarchy.finite_reaches (hierarchy : Hierarchy) (type : QualifiedName) :
    {n | hierarchy.Reaches type n}.Finite := by
  refine (List.finite_toSet (hierarchy.edges.flatMap (·.2))).subset fun n hn => ?_
  obtain ⟨a, -, hlast⟩ := Relation.TransGen.tail'_iff.1 hn
  cases hlookup : hierarchy.edges.lookup a with
  | none => simp [Hierarchy.supertypes, hlookup] at hlast
  | some supertypes =>
    rw [Hierarchy.supertypes, hlookup, Option.getD_some] at hlast
    obtain ⟨before, after, hedges, -⟩ := List.lookup_eq_some_iff.1 hlookup
    exact List.mem_flatMap.2 ⟨(a, supertypes), by simp [hedges], hlast⟩

/-! ## What a search finds -/

/-- What a search from a type has to find: it takes one step for each supertype in the answers to
its questions, asks about each type once, and finds all that can be reached, nearest first. The
closure in a table of these supertypes is the same. -/
structure IsBreadthFirst (supertypes : QualifiedName → List QualifiedName) (start : QualifiedName)
    (result : List QualifiedName) : Prop where
  ends : ∀ limit, explore supertypes start limit [] (supertypes start) =
    if ((start :: result).flatMap supertypes).length ≤ limit then some result else none
  asks : ∀ limit, ((start :: result).flatMap supertypes).length ≤ limit →
    (closureAsking (noted supertypes) start limit).run [] = (some result, start :: result)
  nodup : (start :: result).Nodup
  mem : ∀ n, n ∈ result ↔
    n ≠ start ∧ Relation.TransGen (fun a b => b ∈ supertypes a) start n
  nearest : result.Pairwise fun a b => distance supertypes start a ≤ distance supertypes start b
  closure : ∀ hierarchy : Hierarchy, hierarchy.supertypes = supertypes →
    hierarchy.closure start = result

/-- **A search that can reach finitely many types ends, and is breadth-first.** -/
theorem exists_isBreadthFirst
    (hfinite : {n | Relation.TransGen (fun a b => b ∈ supertypes a) start n}.Finite) :
    ∃ result, IsBreadthFirst supertypes start result := by
  obtain ⟨steps, result, h⟩ := exists_explore hfinite
  have hends : ∀ limit, explore supertypes start limit [] (supertypes start) =
      if ((start :: result).flatMap supertypes).length ≤ limit then some result else none := by
    intro limit
    rw [explore_eq_ite h limit, List.flatMap_cons, List.length_append, List.flatMap_nil,
      List.length_nil, Nat.zero_add]
  refine ⟨result, hends, fun limit hlimit => ?_, nodup_of_explore (by simp) h,
    fun n => mem_iff_of_explore h, pairwise_of_explore h, fun hierarchy hsame => ?_⟩
  · exact exploreAsking_noted ((hends limit).trans (if_pos hlimit))
  · have hclosure := hierarchy.explore_eq_closure start
    rw [hsame, hends] at hclosure
    split at hclosure
    · exact (Option.some.inj hclosure).symm
    · cases hclosure

/-- Types with cycles through `A`, with an edge that is there twice, and with types that are reached
along paths of several lengths. -/
def tangledHierarchy : Hierarchy where
  edges := [(⟨"A"⟩, [⟨"B"⟩, ⟨"C"⟩, ⟨"B"⟩, ⟨"A"⟩]), (⟨"B"⟩, [⟨"A"⟩, ⟨"D"⟩]),
    (⟨"C"⟩, [⟨"B"⟩, ⟨"E"⟩]), (⟨"D"⟩, [⟨"E"⟩])]

theorem exists_isBreadthFirst_tangled :
    {n | tangledHierarchy.Reaches ⟨"A"⟩ n}.Finite ∧
      IsBreadthFirst tangledHierarchy.supertypes ⟨"A"⟩ [⟨"B"⟩, ⟨"C"⟩, ⟨"D"⟩, ⟨"E"⟩] := by
  have hfinite := tangledHierarchy.finite_reaches ⟨"A"⟩
  obtain ⟨result, h⟩ := exists_isBreadthFirst hfinite
  have hresult : tangledHierarchy.closure ⟨"A"⟩ = result := h.closure tangledHierarchy rfl
  have hclosure : tangledHierarchy.closure ⟨"A"⟩ = [⟨"B"⟩, ⟨"C"⟩, ⟨"D"⟩, ⟨"E"⟩] := by decide
  exact ⟨hfinite, hclosure ▸ hresult ▸ h⟩

end Wiring
