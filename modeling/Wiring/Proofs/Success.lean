import Wiring.Marker

/-!
# Work that may fail

Work is described by the condition on which it succeeds and by the value that it then gives, and
work that is made of parts by those of its parts.

* `bind_eq_ok`, `Yields`, with `Yields.bind`, `Yields.map`, `Yields.mapM` and `Yields.of_refusal`;
* `foldlM_eq_findSome?`: the first failure of work that goes on from member to member;
* `yields_requiredClass`, `yields_contributedScopes`: classes that annotations have to give;
* `Schema.yields_markers`: the markers of one kind.
-/

namespace Wiring

/-- The work succeeds exactly on the condition, and then with the value. -/
def Yields {ε α : Type} (work : Except ε α) (condition : Prop) (value : α) : Prop :=
  ∀ result, work = .ok result ↔ condition ∧ result = value

/-- Work in two parts succeeds if both parts do. -/
theorem bind_eq_ok {ε α β : Type} {work : Except ε α} {f : α → Except ε β} {b : β} :
    work >>= f = .ok b ↔ ∃ a, work = .ok a ∧ f a = .ok b := by
  cases work with
  | error failure => exact ⟨fun h => (nomatch h), fun ⟨_, h, _⟩ => (nomatch h)⟩
  | ok a => exact ⟨fun h => ⟨a, rfl, h⟩, fun ⟨_, ha, h⟩ => Except.ok.inj ha ▸ h⟩

namespace Yields

variable {ε α β : Type} {work : Except ε α} {p q : Prop} {a : α} {b : β}

theorem pure (a : α) : Yields (Pure.pure a : Except ε α) True a := by
  intro result
  rw [true_and]
  exact ⟨fun h => (Except.ok.inj h).symm, fun h => congrArg Except.ok h.symm⟩

/-- The condition and the value may be put differently, the value as far as the condition holds. -/
theorem congr (h : Yields work p a) (hiff : p ↔ q) {a' : α} (ha : p → a = a') :
    Yields work q a' := by
  intro result
  rw [h result, ← hiff]
  exact and_congr_right fun hp => by rw [ha hp]

theorem bind {f : α → Except ε β} (h : Yields work p a) (hf : p → Yields (f a) q b) :
    Yields (work >>= f) (p ∧ q) b := by
  intro result
  rw [bind_eq_ok]
  constructor
  · rintro ⟨a', hwork, hresult⟩
    obtain ⟨hp, rfl⟩ := (h a').1 hwork
    obtain ⟨hq, rfl⟩ := (hf hp result).1 hresult
    exact ⟨⟨hp, hq⟩, rfl⟩
  · rintro ⟨⟨hp, hq⟩, rfl⟩
    exact ⟨a, (h a).2 ⟨hp, rfl⟩, (hf hp result).2 ⟨hq, rfl⟩⟩

theorem bind_pure (f : α → β) (h : Yields work p a) :
    Yields (work >>= fun x => Pure.pure (f x)) p (f a) :=
  (h.bind fun _ => pure (f a)).congr (and_iff_left trivial) fun _ => rfl

theorem map (f : α → β) (h : Yields work p a) : Yields (work.map f) p (f a) := by
  have hmap : work.map f = work >>= fun x => Pure.pure (f x) := by
    cases work <;> rfl
  rw [hmap]
  exact h.bind_pure f

/-- Work on each member of a list succeeds if it does for all of them. -/
theorem mapM {f : α → Except ε β} {condition : α → Prop} {value : α → β} {list : List α}
    (h : ∀ x ∈ list, Yields (f x) (condition x) (value x)) :
    Yields (list.mapM f) (∀ x ∈ list, condition x) (list.map value) := by
  induction list with
  | nil => exact (pure []).congr (by simp) (fun _ => rfl)
  | cons x rest ih =>
    rw [List.mapM_cons]
    have ih := ih fun y hy => h y (List.mem_cons_of_mem x hy)
    have hrest := ih.bind_pure (value x :: ·)
    exact ((h x List.mem_cons_self).bind fun _ => hrest).congr List.forall_mem_cons.symm
      fun _ => rfl

/-- Work that is refused or gives a value succeeds if it is not refused. -/
theorem of_refusal {refusal : Option ε} (h : work = refusal.elim (.ok a) .error) :
    Yields work (refusal = none) a := by
  subst h
  intro result
  cases refusal <;> simp [eq_comm]

end Yields

/-- Work that goes on from member to member of a list ends with the failure of the first member that
is refused, and otherwise goes through all of them. -/
theorem foldlM_eq_findSome? {ε α β : Type} {f : β → α → Except ε β} {refusal : α → Option ε}
    {next : β → α → β}
    (hstep : ∀ state x, f state x = (refusal x).elim (.ok (next state x)) .error)
    (list : List α) (state : β) :
    list.foldlM f state = (list.findSome? refusal).elim (.ok (list.foldl next state)) .error := by
  induction list generalizing state with
  | nil => rfl
  | cons x rest ih =>
    rw [List.foldlM_cons, hstep, List.findSome?_cons]
    cases refusal x with
    | none => exact ih (next state x)
    | some failure => rfl

/-! ## Classes given in annotations -/

/-- The class that an annotation gives for a parameter, if it gives one. -/
def Annotation.givenClass (ann : Annotation) (parameter : String) (place : Nat) : QualifiedName :=
  (ann.classArgument? parameter place).getD default

theorem yields_requiredClass (ann : Annotation) (parameter : String) (place : Nat)
    (element : Element) :
    Yields (requiredClass ann parameter place element)
      (ann.classArgument? parameter place).isSome (ann.givenClass parameter place) := by
  intro result
  rw [requiredClass, Annotation.givenClass]
  cases ann.classArgument? parameter place with
  | none => simp
  | some name => simp [eq_comm]

/-- The annotations of a class among others. -/
def annotationsOf (annotations : List Annotation) (name : QualifiedName) : List Annotation :=
  annotations.filter (·.name == name)

theorem annotationsOf_eq_nil {annotations : List Annotation} {name : QualifiedName} :
    annotationsOf annotations name = [] ↔ isAnnotatedWith annotations name = false := by
  rw [annotationsOf, isAnnotatedWith, List.filter_eq_nil_iff, List.any_eq_false]

theorem yields_contributedScopes (annotations : List Annotation) (element : Element) :
    Yields (contributedScopes annotations element)
      (∀ ann ∈ annotationsOf annotations WellKnown.contributesTo,
        (ann.classArgument? "scope" 0).isSome)
      ((annotationsOf annotations WellKnown.contributesTo).map (·.givenClass "scope" 0)) :=
  .mapM fun ann _ => yields_requiredClass ann "scope" 0 element

/-! ## Markers -/

namespace Schema

variable (schema : Schema)

theorem kind?_eq_providesBinding {ann : Annotation} (h : ann.name = schema.providesBinding) :
    schema.kind? ann = some .providesBinding := by
  simp [kind?, MarkerKind.all, markerName, h]

/-- The binding markers among annotations: each of them gives its bound type. -/
theorem yields_markers (annotations : List Annotation) (element : Element) :
    Yields (schema.markers annotations .providesBinding element)
      (∀ ann ∈ annotationsOf annotations schema.providesBinding,
        (ann.classArgument? "boundType" 0).isSome)
      ((annotationsOf annotations schema.providesBinding).map
        fun ann => .providesBinding (ann.givenClass "boundType" 0)) := by
  have hparse : ∀ ann ∈ annotationsOf annotations schema.providesBinding,
      Yields (schema.parse ann element) (ann.classArgument? "boundType" 0).isSome
        (some (.providesBinding (ann.givenClass "boundType" 0))) := by
    intro ann hann
    have hname : ann.name = schema.providesBinding := by
      simpa [annotationsOf] using (List.mem_filter.1 hann).2
    rw [parse, schema.kind?_eq_providesBinding hname]
    exact ((yields_requiredClass ann "boundType" 0 element).map _).map _
  refine ((Yields.mapM hparse).map (·.filterMap id)).congr Iff.rfl fun _ => ?_
  simp [List.filterMap_map, List.filterMap_eq_map']

end Schema

end Wiring
