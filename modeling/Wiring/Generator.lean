import Wiring.Synthesis

/-!
# Generators

A generator picks classes of a unit and makes at most one file of each, from the class and the
context alone.

* `Context`: what all generators share;
* `Outcome`, `Owner`, `Generator`: what becomes of a class, the classes picked, and generators;
* `generateBindings`, `generateProvisions`, `generateAutoWire`: the work on one class;
* `Generator.bindings`, `Generator.provisions`, `Generator.autoWire`, `Generator.builtin`.
-/

namespace Wiring

/-- What all generators of a run share. -/
structure Context where
  schema : Schema := {}
  suffixes : Suffixes := {}
  scopePolicy : ScopePolicy := .fanOut
  factoriesOnly : Bool := false
  hierarchy : Hierarchy

/-! ## The work on one class -/

/-- The bindings of the marked members of a class, or the first failure. Each member has to provide
a value. -/
def ClassDeclaration.bindings (c : ClassDeclaration) (context : Context) :
    Except Failure (List Binding) := do
  let marker := context.schema.providesBinding
  let bindings ← (c.markedMembers marker).mapM fun member => do
    requireCompanion member marker [WellKnown.provides]
    member.bindings context.schema context.hierarchy
  return bindings.flatten

/-- The provisions of the marked members of a class, or the first failure. Each member has to
provide or to bind a value. -/
def ClassDeclaration.memberProvisions (c : ClassDeclaration) (context : Context) :
    Except Failure (List Provision) := do
  let marker := context.schema.contribution
  let provisions ← (c.markedMembers marker).mapM fun member => do
    requireCompanion member marker [WellKnown.provides, WellKnown.binds]
    member.provisions context.schema
  return provisions.flatten

/-- The file of the bindings of a class, if it has any. -/
def generateBindings (c : ClassDeclaration) (context : Context) :
    Except Failure (Option Kotlin.SourceFile) := do
  let bindings ← c.bindings context
  if bindings.isEmpty then return none
  let scopes ← contributedScopes c.annotations c.element
  return some (bindingsFile c bindings (distinct scopes) context.suffixes)

/-- The file of the provisions of a class. A class that is marked itself is published, any other one
publishes its members, if any is marked. -/
def generateProvisions (c : ClassDeclaration) (context : Context) :
    Except Failure (Option Kotlin.SourceFile) := do
  if isAnnotatedWith c.annotations context.schema.contribution then
    let groups ← groupByScope (← c.provisions context.schema) [] context.scopePolicy
    return some (provisionsFile c groups context.suffixes)
  else
    let provisions ← c.memberProvisions context
    if provisions.isEmpty then return none
    let scopes ← contributedScopes c.annotations c.element
    let groups ← groupByScope provisions scopes context.scopePolicy
    return some (provisionsFile c groups context.suffixes)

/-- The file of a class whose members are injected. It has to have exactly one such marker. -/
def generateAutoWire (c : ClassDeclaration) (context : Context) :
    Except Failure (Option Kotlin.SourceFile) := do
  let markers ← context.schema.markers c.annotations .autoWire c.element
  match markers with
  | [.autoWire scope] => return some (autoWireFile c scope context.suffixes)
  | _ =>
    .error (.annotationInvalid c.element context.schema.autoWire
      ("每个类只能有一个自动注入标记，实际 " ++ Nat.repr markers.length ++ " 个"))

/-! ## Generators -/

/-- What becomes of a class: a file, nothing, a failure, or work that ends without any answer and
leaves a text that says how. -/
inductive Outcome where
  | made (file : GeneratedFile)
  | nothing
  | failed (failure : Failure)
  | aborted (text : String)
  deriving DecidableEq

/-- The outcome of work that makes at most one source file. -/
def Outcome.ofResult : Except Failure (Option Kotlin.SourceFile) → Outcome
  | .ok (some file) => .made file.toGenerated
  | .ok none => .nothing
  | .error failure => .failed failure

/-- A class picked by a generator: a class of the unit, by the path to it, or another class. -/
inductive Owner where
  | declared (path : List Nat) (c : ClassDeclaration)
  | foreign (c : ClassDeclaration)

/-- The class picked. -/
def Owner.declaration : Owner → ClassDeclaration
  | declared _ c => c
  | foreign c => c

/-- A generator: its name, when it runs, the classes it picks, and the work on one class. -/
structure Generator where
  name : String
  isApplicable : Context → Bool
  owners : CompilationUnit → Context → List Owner
  generate : ClassDeclaration → Context → Outcome

/-- The classes of a unit that satisfy a condition, depth first. -/
def CompilationUnit.owners (unit : CompilationUnit) (condition : ClassDeclaration → Bool) :
    List Owner :=
  (unit.classPaths.filter (condition ·.2)).map fun entry => .declared entry.1 entry.2

namespace Generator

/-- A generator that runs unless only factories are wanted and picks classes by a condition. -/
def ofWork (name : String) (picks : Context → ClassDeclaration → Bool)
    (work : ClassDeclaration → Context → Except Failure (Option Kotlin.SourceFile)) :
    Generator where
  name := name
  isApplicable context := !context.factoriesOnly
  owners unit context := unit.owners (picks context)
  generate c context := .ofResult (work c context)

/-- Bindings, for the classes that provide values. -/
def bindings : Generator :=
  ofWork "bindings" (fun _ c => isAnnotatedWith c.annotations WellKnown.providerModule)
    generateBindings

/-- Provisions, for marked classes and for the classes that provide values. -/
def provisions : Generator :=
  ofWork "provisions"
    (fun context c => isAnnotatedWith c.annotations context.schema.contribution ||
      isAnnotatedWith c.annotations WellKnown.providerModule)
    generateProvisions

/-- Injection of members, for marked classes. -/
def autoWire : Generator :=
  ofWork "auto_wire" (fun context c => isAnnotatedWith c.annotations context.schema.autoWire)
    generateAutoWire

/-- The generators that are always there, in the order in which they run. -/
def builtin : List Generator := [bindings, provisions, autoWire]

/-- The outcomes of a generator for all classes it picks, none if it does not run. -/
def outcomes (generator : Generator) (unit : CompilationUnit) (context : Context) :
    List (ClassDeclaration × Outcome) :=
  if generator.isApplicable context then
    (generator.owners unit context).map fun owner =>
      (owner.declaration, generator.generate owner.declaration context)
  else []

end Generator

end Wiring
