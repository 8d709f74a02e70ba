import Wiring.QualifiedName

/-!
# Groups by scope

Records collected by scope. Scopes stand in the order in which they were first used, and the records
of a scope in the order in which they came.

* `ScopeGroups`, `ScopeGroups.push`, `ScopeGroups.get?`, `ScopeGroups.scopes`.
-/

namespace Wiring

variable {α : Type}

/-- Records by scope. -/
structure ScopeGroups (α : Type) where
  groups : List (QualifiedName × List α)

namespace ScopeGroups

/-- No groups. -/
def empty : ScopeGroups α := ⟨[]⟩

/-- Add a record to the group of a scope in a list of groups, or a new group at its end. -/
def pushTo (scope : QualifiedName) (record : α) :
    List (QualifiedName × List α) → List (QualifiedName × List α)
  | [] => [(scope, [record])]
  | group :: rest =>
    if group.1 = scope then (group.1, group.2 ++ [record]) :: rest
    else group :: pushTo scope record rest

/-- Add a record to the group of a scope. -/
def push (groups : ScopeGroups α) (scope : QualifiedName) (record : α) : ScopeGroups α :=
  ⟨pushTo scope record groups.groups⟩

/-- Add a record to the group of each of the scopes. -/
def pushAll (groups : ScopeGroups α) (scopes : List QualifiedName) (record : α) : ScopeGroups α :=
  scopes.foldl (·.push · record) groups

/-- The number of groups. -/
def size (groups : ScopeGroups α) : Nat := groups.groups.length

/-- The records of a scope, if it has a group. -/
def get? (groups : ScopeGroups α) (scope : QualifiedName) : Option (List α) :=
  groups.groups.lookup scope

/-- The scopes in order. -/
def scopes (groups : ScopeGroups α) : List QualifiedName := groups.groups.map (·.1)

end ScopeGroups

end Wiring
