import Wiring.Declaration
import Wiring.Distinct

/-!
# Supertypes

The direct supertypes of types, and all supertypes that can be reached from a type.

* `Hierarchy`, `Hierarchy.add`, `Hierarchy.ofUnit`: tables of direct supertypes;
* `explore`: breadth-first search along any relation, within a number of steps;
* `Hierarchy.closure`, `Hierarchy.isStrictSupertype`: the supertypes of a type, nearest first.
-/

namespace Wiring

/-- The direct supertypes of finitely many types. -/
structure Hierarchy where
  edges : List (QualifiedName × List QualifiedName)

/-- Search breadth first: take the first name of the queue and, unless it is `start` or was found
before, find it and put its supertypes at the end of the queue. Without an answer if the queue is
not empty after the given number of steps. -/
def explore (supertypes : QualifiedName → List QualifiedName) (start : QualifiedName) :
    Nat → List QualifiedName → List QualifiedName → Option (List QualifiedName)
  | _, found, [] => some found
  | 0, _, _ :: _ => none
  | steps + 1, found, current :: queue =>
    if current = start ∨ current ∈ found then explore supertypes start steps found queue
    else explore supertypes start steps (found ++ [current]) (queue ++ supertypes current)

namespace Hierarchy

/-- The table without types. -/
def empty : Hierarchy := ⟨[]⟩

/-- Append the supertypes of a type that its entry lacks, in a list of entries. The entry is made if
there is none. -/
def addTo (type : QualifiedName) (supertypes : List QualifiedName) :
    List (QualifiedName × List QualifiedName) → List (QualifiedName × List QualifiedName)
  | [] => [(type, distinct supertypes)]
  | entry :: rest =>
    if entry.1 = type then (entry.1, addNew entry.2 supertypes) :: rest
    else entry :: addTo type supertypes rest

/-- Append direct supertypes to those of a type. -/
def add (hierarchy : Hierarchy) (type : QualifiedName) (supertypes : List QualifiedName) :
    Hierarchy :=
  ⟨addTo type supertypes hierarchy.edges⟩

/-- The table that a unit declares: the types declared elsewhere, then all classes. -/
def ofUnit (unit : CompilationUnit) : Hierarchy :=
  let declared := unit.allClasses.map fun c => (c.name, c.supertypes)
  (unit.externalSupertypes.entries ++ declared).foldl (fun h entry => h.add entry.1 entry.2) empty

/-- The number of types with an entry. -/
def size (hierarchy : Hierarchy) : Nat := hierarchy.edges.length

/-- The direct supertypes of a type, none if it has no entry. -/
def supertypes (hierarchy : Hierarchy) (type : QualifiedName) : List QualifiedName :=
  (hierarchy.edges.lookup type).getD []

/-- The number of direct supertypes in all entries. Every entry is put into the queue at most once,
so a search takes no more steps. -/
def edgeCount (hierarchy : Hierarchy) : Nat :=
  hierarchy.edges.foldr (fun edge count => edge.2.length + count) 0

/-- All types that can be reached from a type, without the type itself, nearest first. -/
def closure (hierarchy : Hierarchy) (type : QualifiedName) : List QualifiedName :=
  (explore hierarchy.supertypes type hierarchy.edgeCount [] (hierarchy.supertypes type)).getD []

/-- Whether `candidate` is reached from `type` and differs from it. -/
def isStrictSupertype (hierarchy : Hierarchy) (type candidate : QualifiedName) : Bool :=
  (hierarchy.closure type).contains candidate

end Hierarchy

end Wiring
