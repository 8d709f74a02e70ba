import Mathlib.Logic.Relation
import Wiring.Hierarchy

/-!
# Types that are reached

The search for supertypes ends within its steps and finds exactly the types that direct supertypes
lead to, in one step or more.

* `Hierarchy.Reaches`: being reached along direct supertypes;
* `explore_isSome`: no search runs out of steps;
* `explore_invariant`: what each step keeps is true at the end;
* `Covers`: what leads out of the names found is in the queue;
* `nodup_of_explore`, `mem_iff_of_explore`: a search misses nothing, finds nothing else, and finds
  nothing twice;
* **`Hierarchy.mem_closure`**, `Hierarchy.isStrictSupertype_iff`: the closure of a type.
-/

namespace Wiring

/-! ## Steps -/

/-- How many direct supertypes the types have in all that were not seen yet. -/
def remaining (seen : List QualifiedName) : List (QualifiedName × List QualifiedName) → Nat
  | [] => 0
  | edge :: rest =>
    if edge.1 ∈ seen then remaining seen rest else edge.2.length + remaining seen rest

theorem remaining_nil (hierarchy : Hierarchy) :
    remaining [] hierarchy.edges = hierarchy.edgeCount := by
  rw [Hierarchy.edgeCount]
  induction hierarchy.edges with
  | nil => rfl
  | cons edge rest ih => rw [remaining, if_neg List.not_mem_nil, ih, List.foldr_cons]

theorem remaining_le {seen more : List QualifiedName} (h : seen ⊆ more)
    (edges : List (QualifiedName × List QualifiedName)) :
    remaining more edges ≤ remaining seen edges := by
  induction edges with
  | nil => exact Nat.le_refl _
  | cons edge rest ih =>
    rw [remaining, remaining]
    by_cases hseen : edge.1 ∈ seen
    · rw [if_pos hseen, if_pos (h hseen)]
      exact ih
    · rw [if_neg hseen]
      split <;> omega

/-- Seeing a type takes its direct supertypes away from those that remain. -/
theorem remaining_add_length_le {seen more : List QualifiedName} (h : seen ⊆ more)
    {type : QualifiedName} (hseen : type ∉ seen) (hmore : type ∈ more)
    (edges : List (QualifiedName × List QualifiedName)) :
    remaining more edges + ((edges.lookup type).getD []).length ≤ remaining seen edges := by
  induction edges with
  | nil => exact Nat.le_refl _
  | cons edge rest ih =>
    rw [remaining, remaining, List.lookup_cons]
    by_cases he : type = edge.1
    · have hrest := remaining_le h rest
      rw [if_pos (he ▸ hmore), if_neg (he ▸ hseen), beq_iff_eq.2 he, Option.getD_some]
      omega
    · rw [beq_false_of_ne he]
      dsimp only
      by_cases hs : edge.1 ∈ seen
      · rw [if_pos hs, if_pos (h hs)]
        exact ih
      · rw [if_neg hs]
        split <;> omega

variable {supertypes : QualifiedName → List QualifiedName} {start current : QualifiedName}
  {steps : Nat} {found queue result : List QualifiedName}

theorem explore_of_mem (h : current ∈ start :: found) :
    explore supertypes start (steps + 1) found (current :: queue) =
      explore supertypes start steps found queue := by
  rw [explore, if_pos (List.mem_cons.1 h)]

theorem explore_of_not_mem (h : current ∉ start :: found) :
    explore supertypes start (steps + 1) found (current :: queue) =
      explore supertypes start steps (found ++ [current]) (queue ++ supertypes current) := by
  rw [explore, if_neg (mt List.mem_cons.2 h)]

/-- A search ends that has as many steps as there are names in the queue and still to come. -/
theorem explore_isSome (hierarchy : Hierarchy)
    (h : queue.length + remaining (start :: found) hierarchy.edges ≤ steps) :
    (explore hierarchy.supertypes start steps found queue).isSome := by
  induction steps generalizing found queue with
  | zero =>
    have hqueue : queue = [] := List.eq_nil_of_length_eq_zero (by omega)
    rw [hqueue, explore]
    rfl
  | succ steps ih =>
    cases queue with
    | nil => rfl
    | cons current queue =>
      rw [List.length_cons] at h
      by_cases hseen : current ∈ start :: found
      · rw [explore_of_mem hseen]
        exact ih (by omega)
      · rw [explore_of_not_mem hseen]
        have hle := remaining_add_length_le (List.subset_append_left (start :: found) [current])
          hseen (by simp) hierarchy.edges
        rw [List.cons_append] at hle
        refine ih ?_
        rw [List.length_append, Hierarchy.supertypes]
        omega

/-! ## What is found -/

/-- What each step of a search keeps is true when the search ends: a name of the queue is left out,
or it is found and its supertypes are put at the end of the queue. -/
theorem explore_invariant {I : List QualifiedName → List QualifiedName → Prop}
    (hskip : ∀ {found current queue}, current ∈ start :: found → I found (current :: queue) →
      I found queue)
    (hfind : ∀ {found current queue}, current ∉ start :: found → I found (current :: queue) →
      I (found ++ [current]) (queue ++ supertypes current))
    (hI : I found queue) (h : explore supertypes start steps found queue = some result) :
    I result [] := by
  induction steps generalizing found queue with
  | zero =>
    cases queue with
    | nil =>
      cases h
      exact hI
    | cons current queue => cases h
  | succ steps ih =>
    cases queue with
    | nil =>
      cases h
      exact hI
    | cons current queue =>
      by_cases hseen : current ∈ start :: found
      · rw [explore_of_mem hseen] at h
        exact ih (hskip hseen hI) h
      · rw [explore_of_not_mem hseen] at h
        exact ih (hfind hseen hI) h

/-- What is true of the names found before and of those in the queue, and of the supertypes of a
name of which it is true, is true of all that a search finds. -/
theorem explore_induction {P : QualifiedName → Prop}
    (hstep : ∀ a, P a → ∀ b ∈ supertypes a, P b)
    (hfound : ∀ a ∈ found, P a) (hqueue : ∀ a ∈ queue, P a)
    (h : explore supertypes start steps found queue = some result) : ∀ a ∈ result, P a := by
  have hend := explore_invariant (I := fun found queue => ∀ a ∈ found ++ queue, P a)
    (fun _ hI a ha => ?_) (fun {found current queue} _ hI a ha => ?_)
    (List.forall_mem_append.2 ⟨hfound, hqueue⟩) h
  · simpa using hend
  · refine hI a ?_
    rw [List.mem_append, List.mem_cons, or_left_comm]
    exact .inr (List.mem_append.1 ha)
  · simp only [List.append_assoc, List.mem_append, List.mem_singleton] at ha
    rcases ha with ha | rfl | ha | ha
    · exact hI a (by simp [ha])
    · exact hI a (by simp)
    · exact hI a (by simp [ha])
    · exact hstep current (hI current (by simp)) a ha

/-- A search finds nothing twice, and not the name that it starts from. -/
theorem nodup_of_explore (hfound : (start :: found).Nodup)
    (h : explore supertypes start steps found queue = some result) : (start :: result).Nodup := by
  refine explore_invariant (I := fun found _ => (start :: found).Nodup) (fun _ hI => hI)
    (fun hnew hI => ?_) hfound h
  rw [← List.cons_append]
  exact List.nodup_append.2 ⟨hI, by simp, fun a ha b hb hab =>
    hnew (List.mem_singleton.1 hb ▸ hab ▸ ha)⟩

/-- What leads out of the names found was found as well, or is in the queue. -/
def Covers (supertypes : QualifiedName → List QualifiedName) (start : QualifiedName)
    (found queue : List QualifiedName) : Prop :=
  ∀ a ∈ start :: found, ∀ b ∈ supertypes a, b ∈ start :: found ∨ b ∈ queue

theorem Covers.skip (h : Covers supertypes start found (current :: queue))
    (hseen : current ∈ start :: found) : Covers supertypes start found queue := by
  intro a ha b hb
  rcases h a ha b hb with hfound | hqueue
  · exact .inl hfound
  · rcases List.mem_cons.1 hqueue with rfl | hqueue
    · exact .inl hseen
    · exact .inr hqueue

theorem Covers.find (h : Covers supertypes start found (current :: queue)) :
    Covers supertypes start (found ++ [current]) (queue ++ supertypes current) := by
  intro a ha b hb
  rw [← List.cons_append, List.mem_append, List.mem_singleton] at ha ⊢
  rw [List.mem_append]
  rcases ha with ha | rfl
  · rcases h a ha b hb with hfound | hqueue
    · exact .inl (.inl hfound)
    · rcases List.mem_cons.1 hqueue with rfl | hqueue
      · exact .inl (.inr rfl)
      · exact .inr (.inl hqueue)
  · exact .inr (.inr hb)

/-- Nothing leads out of what a search finds. -/
theorem explore_closed (hcovers : Covers supertypes start found queue)
    (h : explore supertypes start steps found queue = some result) :
    ∀ a ∈ start :: result, ∀ b ∈ supertypes a, b ∈ start :: result := by
  have hend : Covers supertypes start result [] :=
    explore_invariant (fun hseen hI => hI.skip hseen) (fun _ hI => hI.find) hcovers h
  simpa [Covers] using hend

/-- A search that starts with the supertypes of a name finds what can be reached from the name in
one step or more, but for the name itself. -/
theorem mem_iff_of_explore {candidate : QualifiedName}
    (h : explore supertypes start steps [] (supertypes start) = some result) :
    candidate ∈ result ↔
      candidate ≠ start ∧ Relation.TransGen (fun a b => b ∈ supertypes a) start candidate := by
  constructor
  · intro hmem
    constructor
    · rintro rfl
      exact (List.nodup_cons.1 (nodup_of_explore (by simp) h)).1 hmem
    · exact explore_induction (P := Relation.TransGen (fun a b => b ∈ supertypes a) start)
        (fun a ha b hb => ha.tail hb) (by simp) (fun a ha => .single ha) h candidate hmem
  · rintro ⟨hne, hreached⟩
    have hclosed := explore_closed (fun a ha b hb => .inr (List.mem_singleton.1 ha ▸ hb)) h
    have hmem : candidate ∈ start :: result := by
      clear hne
      induction hreached with
      | single hstep => exact hclosed _ List.mem_cons_self _ hstep
      | tail _ hstep ih => exact hclosed _ ih _ hstep
    exact (List.mem_cons.1 hmem).resolve_left hne

/-! ## The closure of a type -/

namespace Hierarchy

variable (hierarchy : Hierarchy)

/-- Whether a type is reached from another one along direct supertypes, in one step or more. -/
def Reaches : QualifiedName → QualifiedName → Prop :=
  Relation.TransGen fun a b => b ∈ hierarchy.supertypes a

/-- The search of a closure ends. -/
theorem explore_eq_closure (type : QualifiedName) :
    explore hierarchy.supertypes type hierarchy.edgeCount [] (hierarchy.supertypes type) =
      some (hierarchy.closure type) := by
  have hle := remaining_add_length_le (List.nil_subset [type]) List.not_mem_nil
    (List.mem_singleton_self type) hierarchy.edges
  rw [remaining_nil] at hle
  have hsome : (explore hierarchy.supertypes type hierarchy.edgeCount []
      (hierarchy.supertypes type)).isSome := by
    apply explore_isSome
    rw [supertypes]
    omega
  obtain ⟨result, hresult⟩ := Option.isSome_iff_exists.1 hsome
  rw [closure, hresult, Option.getD_some]

/-- **The closure of a type are the types that it reaches**, but for the type itself. -/
theorem mem_closure {type candidate : QualifiedName} :
    candidate ∈ hierarchy.closure type ↔ candidate ≠ type ∧ hierarchy.Reaches type candidate :=
  mem_iff_of_explore (hierarchy.explore_eq_closure type)

theorem isStrictSupertype_iff {type candidate : QualifiedName} :
    hierarchy.isStrictSupertype type candidate ↔
      candidate ≠ type ∧ hierarchy.Reaches type candidate := by
  rw [isStrictSupertype, List.contains_iff_mem, mem_closure]

end Hierarchy

end Wiring
