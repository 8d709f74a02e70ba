import Mathlib.Data.List.Nodup
import Wiring.Marker

/-!
# Legal calls

The arguments of an annotation are a call with the parameters of its class. A call may pass the
first arguments in the order of the parameters, with or without names, and all further ones by name
in any order. The value of a parameter does not depend on how it is passed.

* `supplied`: the values of a call, with the parameters that they are for;
* `IsLegalCall`: the calls that are allowed; `IsLegalCall.value_unique`;
* `MarkerKind.parameterNames`: the parameters of the marker annotations;
* **`argument?_of_isLegalCall`**: the value of a parameter is the one that is supplied, so calls
  that supply the same values are the same marker.
-/

namespace Wiring

/-! ## Calls -/

/-- The parameter that an argument at a place is for: that of its name or, if it has none, that of
its place. -/
def AnnotationArgument.parameter? (argument : AnnotationArgument) (parameters : List String)
    (place : Nat) : Option String :=
  argument.name.or parameters[place]?

/-- The values of arguments, with the parameters that they are for. -/
def supplied (parameters : List String) (arguments : List AnnotationArgument) :
    List (Option String × AnnotationValue) :=
  arguments.mapIdx fun place argument => (argument.parameter? parameters place, argument.value)

/-- The first arguments stand in the order of the parameters, with their names or without, all
further ones have names of parameters, and no parameter is supplied twice. -/
structure IsLegalCall (parameters : List String) (arguments : List AnnotationArgument) : Prop where
  inOrder : ∃ first rest, arguments = first ++ rest ∧
    (∀ (place : Nat) (argument : AnnotationArgument), first[place]? = some argument →
      ∃ parameter, parameters[place]? = some parameter ∧
        (argument.name = none ∨ argument.name = some parameter)) ∧
    ∀ argument ∈ rest, ∃ parameter ∈ parameters, argument.name = some parameter
  once : ((supplied parameters arguments).map (·.1)).Nodup

variable {parameters : List String} {arguments : List AnnotationArgument} {ann other : Annotation}
  {argument : AnnotationArgument} {parameter : String} {place : Nat} {value : AnnotationValue}

theorem mem_supplied : (some parameter, value) ∈ supplied parameters arguments ↔
    ∃ (place : Nat) (argument : AnnotationArgument), arguments[place]? = some argument ∧
      argument.parameter? parameters place = some parameter ∧ argument.value = value := by
  simp [supplied, List.mem_iff_getElem?, List.getElem?_mapIdx]

/-- Each argument of a legal call is for one of the parameters. -/
theorem IsLegalCall.parameter?_mem (h : IsLegalCall parameters arguments)
    (hargument : arguments[place]? = some argument) :
    ∃ parameter ∈ parameters, argument.parameter? parameters place = some parameter := by
  obtain ⟨first, rest, rfl, hfirst, hrest⟩ := h.inOrder
  rw [List.getElem?_append] at hargument
  split at hargument
  · obtain ⟨parameter, hplace, hname⟩ := hfirst place argument hargument
    refine ⟨parameter, List.mem_of_getElem? hplace, ?_⟩
    rcases hname with hname | hname <;> simp [AnnotationArgument.parameter?, hname, hplace]
  · obtain ⟨parameter, hparameter, hname⟩ := hrest argument (List.mem_of_getElem? hargument)
    exact ⟨parameter, hparameter, by simp [AnnotationArgument.parameter?, hname]⟩

/-- A legal call gives a parameter one value at most. -/
theorem IsLegalCall.value_unique (h : IsLegalCall parameters arguments) {other : AnnotationValue}
    (hvalue : (some parameter, value) ∈ supplied parameters arguments)
    (hother : (some parameter, other) ∈ supplied parameters arguments) : value = other :=
  congrArg Prod.snd (List.inj_on_of_nodup_map h.once hvalue hother rfl)

/-- An argument with the name of a parameter is for it, wherever it stands. -/
theorem mem_supplied_of_find? (hfind : arguments.find? (·.name == some parameter) = some argument) :
    (some parameter, argument.value) ∈ supplied parameters arguments := by
  obtain ⟨place, hplace⟩ := List.mem_iff_getElem?.1 (List.mem_of_find?_eq_some hfind)
  have hname : argument.name = some parameter := by simpa using List.find?_some hfind
  exact mem_supplied.2
    ⟨place, argument, hplace, by simp [AnnotationArgument.parameter?, hname], rfl⟩

/-- What is found for a parameter has been supplied. -/
theorem mem_supplied_of_argument? (hplace : parameters[place]? = some parameter)
    (h : ann.argument? parameter place = some value) :
    (some parameter, value) ∈ supplied parameters ann.arguments := by
  rw [ Annotation.argument?] at h
  split at h
  · next hfind =>
    rw [← Option.some.inj h]
    exact mem_supplied_of_find? hfind
  · obtain ⟨argument, hfilter, hvalue⟩ := Option.map_eq_some_iff.1 h
    obtain ⟨hargument, hname⟩ := Option.filter_eq_some_iff.1 hfilter
    rw [Option.isNone_iff_eq_none] at hname
    exact mem_supplied.2 ⟨place, argument, hargument,
      by simp [AnnotationArgument.parameter?, hname, hplace], hvalue⟩

/-- What a legal call supplies is found: by its name or, as no other argument has that name, at the
place of its parameter. -/
theorem argument?_of_mem_supplied (hdistinct : parameters.Nodup)
    (hcall : IsLegalCall parameters ann.arguments) (hplace : parameters[place]? = some parameter)
    (h : (some parameter, value) ∈ supplied parameters ann.arguments) :
    ann.argument? parameter place = some value := by
  rw [ Annotation.argument?]
  split
  · next hfind => rw [hcall.value_unique (mem_supplied_of_find? hfind) h]
  · next hfind =>
    obtain ⟨i, argument, hi, hparameter, hvalue⟩ := mem_supplied.1 h
    have hname : argument.name ≠ some parameter := by
      simpa using List.find?_eq_none.1 hfind argument (List.mem_of_getElem? hi)
    rw [AnnotationArgument.parameter?, Option.or_eq_some_iff] at hparameter
    obtain ⟨hunnamed, hposition⟩ := hparameter.resolve_left hname
    have heq : place = i :=
      (List.getElem?_inj (List.getElem?_eq_some_iff.1 hplace).1 hdistinct).1
        (hplace.trans hposition.symm)
    subst heq
    simp [hi, hunnamed, hvalue]

/-- The value of a parameter is the one that a legal call supplies. -/
theorem argument?_eq_some_iff (hdistinct : parameters.Nodup)
    (hcall : IsLegalCall parameters ann.arguments) (hplace : parameters[place]? = some parameter) :
    ann.argument? parameter place = some value ↔
      (some parameter, value) ∈ supplied parameters ann.arguments :=
  ⟨mem_supplied_of_argument? hplace, argument?_of_mem_supplied hdistinct hcall hplace⟩

/-! ## Markers -/

/-- The parameters of a marker annotation, in order. -/
def MarkerKind.parameterNames : MarkerKind → List String
  | providesBinding => ["boundType"]
  | contribution => ["scope", "name"]
  | autoWire => ["scope"]

/-- A marker is read from the values of its parameters. -/
theorem Schema.parseAs_congr (schema : Schema) (element : Element) {kind : MarkerKind}
    (hname : other.name = ann.name)
    (h : ∀ place parameter, kind.parameterNames[place]? = some parameter →
      other.argument? parameter place = ann.argument? parameter place) :
    schema.parseAs other element kind = schema.parseAs ann element kind := by
  cases kind with
  | providesBinding =>
    simp only [parseAs, requiredClass, Annotation.classArgument?, h 0 "boundType" rfl, hname]
  | contribution =>
    simp only [parseAs, Annotation.classArgument?, Annotation.stringArgument?, h 0 "scope" rfl,
      h 1 "name" rfl]
  | autoWire =>
    simp only [parseAs, requiredClass, Annotation.classArgument?, h 0 "scope" rfl, hname]

/-- **How arguments are passed does not matter.** In a legal call the value of a parameter is the
one that is supplied for it, and there is none if none is supplied; each argument is the value of
one of the parameters. So two legal calls of a marker annotation that supply the same values are
read as the same marker, or refused with the same failure. -/
theorem argument?_of_isLegalCall (hdistinct : parameters.Nodup)
    (hcall : IsLegalCall parameters ann.arguments) :
    (∀ place parameter, parameters[place]? = some parameter →
      (∀ value, (some parameter, value) ∈ supplied parameters ann.arguments →
        ann.argument? parameter place = some value) ∧
      ((∀ value, (some parameter, value) ∉ supplied parameters ann.arguments) →
        ann.argument? parameter place = none)) ∧
    (∀ argument ∈ ann.arguments, ∃ place parameter, parameters[place]? = some parameter ∧
      ann.argument? parameter place = some argument.value) ∧
    ∀ (schema : Schema) (element : Element) (other : Annotation), other.name = ann.name →
      IsLegalCall parameters other.arguments →
      (∀ kind, schema.kind? ann = some kind → kind.parameterNames <+: parameters) →
      (∀ parameter ∈ parameters, ∀ value,
        (some parameter, value) ∈ supplied parameters other.arguments ↔
          (some parameter, value) ∈ supplied parameters ann.arguments) →
      schema.parse other element = schema.parse ann element := by
  refine ⟨fun place parameter hplace => ⟨fun value => ?_, fun hnone => ?_⟩,
    fun argument hargument => ?_, fun schema element other hname hother hparameters hsame => ?_⟩
  · exact argument?_of_mem_supplied hdistinct hcall hplace
  · exact Option.eq_none_iff_forall_ne_some.2 fun value h =>
      hnone value (mem_supplied_of_argument? hplace h)
  · obtain ⟨i, hi⟩ := List.mem_iff_getElem?.1 hargument
    obtain ⟨parameter, hparameter, hfor⟩ := hcall.parameter?_mem hi
    obtain ⟨place, hplace⟩ := List.mem_iff_getElem?.1 hparameter
    exact ⟨place, parameter, hplace, argument?_of_mem_supplied hdistinct hcall hplace
      (mem_supplied.2 ⟨i, argument, hi, hfor, rfl⟩)⟩
  · have hkind : schema.kind? other = schema.kind? ann := by
      rw [Schema.kind?, Schema.kind?, hname]
    rw [Schema.parse, Schema.parse, hkind]
    cases hfound : schema.kind? ann with
    | none => rfl
    | some kind =>
      refine congrArg (Except.map some)
        (schema.parseAs_congr element hname fun place parameter hparameter => ?_)
      -- The parameters of the marker stand at the same places among those of the call.
      have hplace : parameters[place]? = some parameter := by
        obtain ⟨hlt, rfl⟩ := List.getElem?_eq_some_iff.1 hparameter
        exact List.prefix_iff_getElem?.1 (hparameters kind hfound) place hlt
      refine Option.ext fun value => ?_
      rw [argument?_eq_some_iff hdistinct hother hplace,
        argument?_eq_some_iff hdistinct hcall hplace]
      exact hsame parameter (List.mem_of_getElem? hplace) value

/-- A contribution of which the scope is passed by its place, and the name after another one. -/
def mixedCall : Annotation :=
  ⟨⟨"lorn.codegen.annotations.Contribution"⟩, [⟨none, .classLiteral ⟨"app.Main"⟩⟩,
    ⟨some "order", .int 1⟩, ⟨some "name", .string "client"⟩], []⟩

/-- The same contribution with all arguments passed by name. -/
def namedCall : Annotation :=
  ⟨⟨"lorn.codegen.annotations.Contribution"⟩, [⟨some "name", .string "client"⟩,
    ⟨some "order", .int 1⟩, ⟨some "scope", .classLiteral ⟨"app.Main"⟩⟩], []⟩

theorem argument?_of_isLegalCall_mixed :
    let parameters := ["scope", "name", "order"]
    parameters.Nodup ∧ IsLegalCall parameters mixedCall.arguments ∧
      IsLegalCall parameters namedCall.arguments ∧
      mixedCall.argument? "name" 1 = some (.string "client") ∧
      Schema.parse {} namedCall (.ofClass ⟨"app.Net"⟩) =
        Schema.parse {} mixedCall (.ofClass ⟨"app.Net"⟩) := by
  intro parameters
  have hdistinct : parameters.Nodup := by decide
  have hmixed : IsLegalCall parameters mixedCall.arguments := by
    refine ⟨⟨mixedCall.arguments.take 1, mixedCall.arguments.drop 1, rfl, ?_, ?_⟩, by decide⟩
    · intro place argument h
      obtain ⟨rfl, rfl⟩ : place = 0 ∧ _ = argument := by
        simpa [mixedCall, List.getElem?_singleton] using h
      exact ⟨"scope", rfl, .inl rfl⟩
    · simp [mixedCall, parameters]
  have hnamed : IsLegalCall parameters namedCall.arguments :=
    ⟨⟨[], namedCall.arguments, rfl, by simp, by simp [namedCall, parameters]⟩, by decide⟩
  have hsame : supplied parameters namedCall.arguments =
      (supplied parameters mixedCall.arguments).reverse := rfl
  have hkind : Schema.kind? {} mixedCall = some .contribution := by decide
  obtain ⟨hvalues, -, hmarkers⟩ := argument?_of_isLegalCall hdistinct hmixed
  refine ⟨hdistinct, hmixed, hnamed, (hvalues 1 "name" rfl).1 _ ?_, hmarkers {} _ namedCall rfl
    hnamed (fun kind h => ?_) fun parameter _ value => ?_⟩
  · simp [supplied, mixedCall, parameters, AnnotationArgument.parameter?]
  · obtain rfl := Option.some.inj (hkind.symm.trans h)
    decide
  · rw [hsame, List.mem_reverse]

end Wiring
