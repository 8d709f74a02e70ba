import Wiring.Proofs.WrittenAnnotations

/-!
# Written interfaces

An interface is determined by its text. The annotations on a declaration are lines that begin with
their own sign, a member begins with the word for what it is, and the body ends with a brace at the
beginning of a line.

* `Interface.IsNamed`: all names in an interface are identifiers;
* **`determined_memberChars`**, **`determined_interfaceChars`**: members and interfaces.
-/

namespace Wiring.Kotlin

open Text

/-! ## Well-formed names -/

/-- The annotations in an interface. -/
def Interface.annotationUses (interface : Interface) : List AnnotationUse :=
  interface.annotations ++ interface.properties.flatMap Property.annotations ++
    interface.functions.flatMap Function.annotations

/-- An interface, its members and all that its annotations name have identifiers as names. -/
structure Interface.IsNamed (interface : Interface) : Prop where
  name : isIdentifier interface.name
  properties : ∀ property ∈ interface.properties, isIdentifier property.name
  functions : ∀ function ∈ interface.functions, isIdentifier function.name
  annotations : ∀ use ∈ interface.annotationUses, ∃ arguments, use.HasArguments arguments

variable {names : NameTable} {known : List QualifiedName}

/-! ## Lines of annotations -/

variable (names) in
def useLine (indent : List Char) (use : AnnotationUse) : List Char :=
  indent ++ (use.render names).toList ++ ['\n']

theorem determined_useLine (hnames : names.Separates known) (indent : List Char)
    {use : AnnotationUse} (h : IsProperUse known use) :
    Determined (useLine names indent) (IsProperUse known) (fun _ => True) use := by
  intro b r s hb _ _ heq
  simp only [useLine, List.append_assoc] at heq
  obtain ⟨rfl, hrest⟩ := determined_renderUse hnames h hb (avoids_cons.2 (by decide))
    (avoids_cons.2 (by decide)) (List.append_cancel_left heq)
  exact ⟨rfl, by simpa using hrest⟩

/-- Lines of annotations end where something else stands in a line. -/
theorem useLines_append_inj (hnames : names.Separates known) (indent : List Char)
    {as bs : List AnnotationUse} (has : ∀ a ∈ as, IsProperUse known a)
    (hbs : ∀ b ∈ bs, IsProperUse known b) {r s : List Char} (hr : r.head? ≠ some '@')
    (hs : s.head? ≠ some '@')
    (h : as.flatMap (useLine names indent) ++ (indent ++ r) =
      bs.flatMap (useLine names indent) ++ (indent ++ s)) : as = bs ∧ r = s := by
  have hstarts : ∀ use t, IsProperUse known use →
      indent ++ ['@'] <+: useLine names indent use ++ t := by
    intro use t huse
    obtain ⟨arguments, harguments⟩ := huse.arguments
    simp [useLine, toList_renderUse harguments, List.append_assoc]
  -- After the indentation, only an annotation begins with its sign.
  have hends : ∀ {t : List Char}, t.head? ≠ some '@' → True ∧ ¬indent ++ ['@'] <+: indent ++ t := by
    rintro t ht
    refine ⟨trivial, fun ⟨u, hu⟩ => ht ?_⟩
    rw [List.append_assoc] at hu
    rw [← List.append_cancel_left hu]
    rfl
  obtain ⟨rfl, hrest⟩ := determined_flatMap hstarts (fun _ _ => trivial)
    (fun a ha => ⟨has a ha, determined_useLine hnames indent (has a ha)⟩) hbs (hends hr)
    (hends hs) h
  exact ⟨rfl, List.append_cancel_left hrest⟩

/-! ## Members -/

/-- The members of an interface, properties first. -/
def Interface.members (interface : Interface) : List (Property ⊕ Function) :=
  interface.properties.map .inl ++ interface.functions.map .inr

def memberUses : Property ⊕ Function → List AnnotationUse
  | .inl property => property.annotations
  | .inr function => function.annotations

variable (names) in
/-- The characters of the type that a function returns. -/
def returnsChars : Option TypeName → List Char
  | none => []
  | some type => ':' :: ' ' :: (type.render names).toList

/-- The words before a member's receiver and name. -/
def memberKeyword : Property ⊕ Function → String
  | .inl _ => "public val "
  | .inr _ => "public fun "

variable (names) in
/-- The characters of the receiver and the name of a member. -/
def memberHead : Property ⊕ Function → List Char
  | .inl property => memberText names property.receiver property.name
  | .inr function => memberText names function.receiver function.name

variable (names) in
/-- The characters after the name of a member. -/
def memberTail : Property ⊕ Function → List Char
  | .inl property => ':' :: ' ' :: (property.type.render names).toList
  | .inr function => '(' :: ')' :: returnsChars names function.returns

variable (names) in
def memberChars (member : Property ⊕ Function) : List Char :=
  (memberUses member).flatMap (useLine names [' ', ' ']) ++ ([' ', ' '] ++
    ((memberKeyword member).toList ++ (memberHead names member ++
      (memberTail names member ++ ['\n']))))

def IsProperMember (known : List QualifiedName) : Property ⊕ Function → Prop
  | .inl property => isIdentifier property.name ∧ property.type.Knows known ∧
    ReceiverKnows known property.receiver ∧ ∀ use ∈ property.annotations, IsProperUse known use
  | .inr function => isIdentifier function.name ∧ ReceiverKnows known function.returns ∧
    ReceiverKnows known function.receiver ∧ ∀ use ∈ function.annotations, IsProperUse known use

theorem IsProperMember.isProperUse {member : Property ⊕ Function}
    (h : IsProperMember known member) : ∀ use ∈ memberUses member, IsProperUse known use := by
  cases member with
  | inl property => exact h.2.2.2
  | inr function => exact h.2.2.2

theorem returnsChars_append_inj (hnames : names.Separates known) {a b : Option TypeName}
    (ha : ReceiverKnows known a) (hb : ReceiverKnows known b) {r s : List Char}
    (h : returnsChars names a ++ '\n' :: r = returnsChars names b ++ '\n' :: s) :
    a = b ∧ r = s := by
  cases a with
  | none =>
    cases b with
    | none => simpa [returnsChars] using h
    | some type => simp [returnsChars] at h
  | some type =>
    cases b with
    | none => simp [returnsChars] at h
    | some type' =>
      have hline : continuesType '\n' = false := by decide
      simp only [returnsChars, List.cons_append, List.cons.injEq, true_and] at h
      obtain ⟨rfl, hrest⟩ := TypeName.determined_render hnames type (ha _ rfl) (hb _ rfl)
        (avoids_cons.2 hline) (avoids_cons.2 hline) h
      exact ⟨rfl, (List.cons.inj hrest).2⟩

theorem property_append_inj (hnames : names.Separates known) {p q : Property}
    (hp : IsProperMember known (.inl p)) (hq : IsProperMember known (.inl q))
    (huses : p.annotations = q.annotations) {r s : List Char}
    (h : memberText names p.receiver p.name ++
        ':' :: ' ' :: ((p.type.render names).toList ++ '\n' :: r) =
      memberText names q.receiver q.name ++
        ':' :: ' ' :: ((q.type.render names).toList ++ '\n' :: s)) : p = q ∧ r = s := by
  obtain ⟨hpname, hptype, hpreceiver, -⟩ := hp
  obtain ⟨hqname, hqtype, hqreceiver, -⟩ := hq
  obtain ⟨hreceiver, hname, hrest⟩ := receiver_append_inj hnames hpreceiver hqreceiver hpname hqname
    (avoids_cons.2 (by decide)) (avoids_cons.2 (by decide)) h
  simp only [List.cons.injEq, true_and] at hrest
  obtain ⟨htype, hend⟩ := TypeName.determined_render hnames _ hptype hqtype
    (avoids_cons.2 (by decide)) (avoids_cons.2 (by decide)) hrest
  obtain ⟨name, type, receiver, annotations⟩ := p
  obtain ⟨name', type', receiver', annotations'⟩ := q
  simp only at hreceiver hname htype huses
  rw [hreceiver, hname, htype, huses]
  exact ⟨rfl, (List.cons.inj hend).2⟩

theorem function_append_inj (hnames : names.Separates known) {f g : Function}
    (hf : IsProperMember known (.inr f)) (hg : IsProperMember known (.inr g))
    (huses : f.annotations = g.annotations) {r s : List Char}
    (h : memberText names f.receiver f.name ++
        '(' :: ')' :: (returnsChars names f.returns ++ '\n' :: r) =
      memberText names g.receiver g.name ++
        '(' :: ')' :: (returnsChars names g.returns ++ '\n' :: s)) : f = g ∧ r = s := by
  obtain ⟨hfname, hfreturns, hfreceiver, -⟩ := hf
  obtain ⟨hgname, hgreturns, hgreceiver, -⟩ := hg
  obtain ⟨hreceiver, hname, hrest⟩ := receiver_append_inj hnames hfreceiver hgreceiver hfname hgname
    (avoids_cons.2 (by decide)) (avoids_cons.2 (by decide)) h
  simp only [List.cons.injEq, true_and] at hrest
  obtain ⟨hreturns, hend⟩ := returnsChars_append_inj hnames hfreturns hgreturns hrest
  obtain ⟨name, receiver, returns, annotations⟩ := f
  obtain ⟨name', receiver', returns', annotations'⟩ := g
  simp only at hreceiver hname hreturns huses
  rw [hreceiver, hname, hreturns, huses]
  exact ⟨rfl, hend⟩

theorem head?_memberKeyword (member : Property ⊕ Function) (r : List Char) :
    ((memberKeyword member).toList ++ r).head? ≠ some '@' := by
  cases member <;> simp [memberKeyword]

/-- **A member is determined by its text.** -/
theorem determined_memberChars (hnames : names.Separates known) {member : Property ⊕ Function}
    (h : IsProperMember known member) :
    Determined (memberChars names) (IsProperMember known) (fun _ => True) member := by
  intro b r s hb _ _ heq
  simp only [memberChars, List.append_assoc] at heq
  obtain ⟨huses, hdeclaration⟩ := useLines_append_inj hnames _ h.isProperUse hb.isProperUse
    (head?_memberKeyword member _) (head?_memberKeyword b _) heq
  cases member with
  | inl p =>
    cases b with
    | inl q =>
      obtain ⟨rfl, hrest⟩ := property_append_inj hnames h hb huses
        (List.append_cancel_left hdeclaration)
      exact ⟨rfl, hrest⟩
    | inr g => simp [memberKeyword] at hdeclaration
  | inr f =>
    cases b with
    | inl q => simp [memberKeyword] at hdeclaration
    | inr g =>
      obtain ⟨rfl, hrest⟩ := function_append_inj hnames h hb huses
        (List.append_cancel_left hdeclaration)
      exact ⟨rfl, hrest⟩

variable (names) in
def linesOf : Property ⊕ Function → List String
  | .inl property => property.lines names
  | .inr function => function.lines names

theorem memberLines_eq (interface : Interface) :
    interface.memberLines names = interface.members.map (linesOf names) := by
  simp [Interface.memberLines, Interface.members, linesOf, Function.comp_def]

theorem toList_renderMember (uses : List AnnotationUse) (declaration : String) :
    (renderMember (uses.map (AnnotationUse.render names) ++ [declaration])).toList =
      uses.flatMap (useLine names [' ', ' ']) ++
        ([' ', ' '] ++ (declaration.toList ++ ['\n'])) := by
  have hline : useLine names [' ', ' '] = fun use =>
      ' ' :: ' ' :: ((use.render names).toList ++ ['\n']) := rfl
  simp [renderMember, endLine, hline, String.toList_join, List.flatMap_map]

theorem toList_renderMember_linesOf (member : Property ⊕ Function) :
    (renderMember (linesOf names member)).toList = memberChars names member := by
  cases member with
  | inl property =>
    rw [linesOf, Property.lines, toList_renderMember]
    simp [memberChars, memberUses, memberKeyword, memberHead, memberTail, memberText]
  | inr function =>
    rw [linesOf, Function.lines, toList_renderMember]
    cases hreturns : function.returns <;>
      simp [memberChars, memberUses, memberKeyword, memberHead, memberTail, memberText, hreturns,
        returnsChars]

/-! ## Interfaces -/

variable (names) in
/-- The characters after the name of an interface. -/
def bodyChars (members : List (Property ⊕ Function)) : List Char :=
  if members.isEmpty then ['\n']
  else ' ' :: '{' :: '\n' :: (['\n'].intercalate (members.map (memberChars names)) ++ ['}', '\n'])

/-- The words before the name of an interface. -/
def interfaceKeyword : String := "public interface "

theorem head?_interfaceKeyword (r : List Char) :
    (interfaceKeyword.toList ++ r).head? ≠ some '@' := by
  simp [interfaceKeyword]

variable (names) in
def interfaceChars (interface : Interface) : List Char :=
  interface.annotations.flatMap (useLine names []) ++ (interfaceKeyword.toList ++
    ((escape interface.name).toList ++ bodyChars names interface.members))

theorem toList_renderInterface (interface : Interface) :
    (interface.render names).toList = interfaceChars names interface := by
  have huses : (String.join (interface.annotations.map fun use =>
      endLine (use.render names))).toList = interface.annotations.flatMap (useLine names []) := by
    have hline : useLine names [] = fun use => (use.render names).toList ++ ['\n'] := rfl
    simp [endLine, hline, String.toList_join, List.flatMap_map]
  have hmembers : String.toList ∘ renderMember ∘ linesOf names = memberChars names :=
    funext toList_renderMember_linesOf
  rw [Interface.render, memberLines_eq, List.isEmpty_map, interfaceChars, bodyChars,
    interfaceKeyword]
  cases hempty : interface.members.isEmpty <;> simp [huses, hmembers]

theorem avoids_bodyChars (members : List (Property ⊕ Function)) (r : List Char) :
    Avoids isNameChar (bodyChars names members ++ r) := by
  cases members with
  | nil => exact avoids_cons.2 (by decide)
  | cons member members => exact avoids_cons.2 (by decide)

theorem head?_memberChars (member : Property ⊕ Function) (r : List Char) :
    (memberChars names member ++ r).head? = some ' ' := by
  rw [memberChars]
  cases memberUses member <;> rfl

/-- The members of an interface are determined by its body. -/
theorem bodyChars_append_inj (hnames : names.Separates known) {as bs : List (Property ⊕ Function)}
    (has : ∀ a ∈ as, IsProperMember known a) (hbs : ∀ b ∈ bs, IsProperMember known b)
    {r s : List Char} (h : bodyChars names as ++ r = bodyChars names bs ++ s) :
    as = bs ∧ r = s := by
  cases as with
  | nil =>
    cases bs with
    | nil => exact ⟨rfl, List.append_cancel_left h⟩
    | cons b bs =>
      have hhead : some '\n' = some ' ' := congrArg List.head? h
      cases hhead
  | cons a as =>
    cases bs with
    | nil =>
      have hhead : some ' ' = some '\n' := congrArg List.head? h
      cases hhead
    | cons b bs =>
      -- Lines of members are indented, and the brace is not.
      have hopen : ∀ member r s, IsProperMember known member →
          memberChars names member ++ r ≠ '}' :: s := by
        intro member r s _ heq
        have hhead := congrArg List.head? heq
        rw [head?_memberChars] at hhead
        cases hhead
      have hbody : ['\n'].intercalate ((a :: as).map (memberChars names)) ++ '}' :: '\n' :: r =
          ['\n'].intercalate ((b :: bs).map (memberChars names)) ++ '}' :: '\n' :: s := by
        simpa [bodyChars] using h
      obtain ⟨hlists, hrest⟩ := close_append_inj (by decide) (fun _ => trivial) (fun _ => trivial)
        hopen (fun a ha => ⟨has a ha, determined_memberChars hnames (has a ha)⟩) hbs hbody
      exact ⟨hlists, (List.cons.inj hrest).2⟩

theorem members_inj {interface other : Interface} (h : interface.members = other.members) :
    interface.properties = other.properties ∧ interface.functions = other.functions := by
  have hleft : ∀ i : Interface, i.members.filterMap Sum.getLeft? = i.properties := fun i => by
    simp [Interface.members, List.filterMap_append, List.filterMap_map, Function.comp_def]
  have hright : ∀ i : Interface, i.members.filterMap Sum.getRight? = i.functions := fun i => by
    simp [Interface.members, List.filterMap_append, List.filterMap_map, Function.comp_def]
  rw [← hleft, ← hright, h, hleft, hright]
  exact ⟨rfl, rfl⟩

structure IsProperInterface (known : List QualifiedName) (interface : Interface) : Prop where
  isNamed : interface.IsNamed
  knows : ∀ n ∈ interface.classNames, n ∈ known

namespace IsProperInterface

variable {interface : Interface}

theorem isProperUse (h : IsProperInterface known interface) {use : AnnotationUse}
    (huse : use ∈ interface.annotationUses) : IsProperUse known use := by
  refine ⟨h.isNamed.annotations use huse, fun n hn => h.knows n ?_⟩
  simp only [Interface.annotationUses, List.mem_append, List.mem_flatMap] at huse
  simp only [Interface.classNames, Property.classNames, Function.classNames, List.mem_append,
    List.mem_flatMap]
  rcases huse with (huse | ⟨p, hp, huse⟩) | ⟨f, hf, huse⟩
  · exact .inl (.inl ⟨use, huse, hn⟩)
  · exact .inl (.inr ⟨p, hp, .inr ⟨use, huse, hn⟩⟩)
  · exact .inr ⟨f, hf, .inr ⟨use, huse, hn⟩⟩

theorem isProperUse_annotations (h : IsProperInterface known interface) :
    ∀ use ∈ interface.annotations, IsProperUse known use := fun use huse =>
  h.isProperUse (by simp [Interface.annotationUses, huse])

theorem isProperMember_property (h : IsProperInterface known interface) {property : Property}
    (hproperty : property ∈ interface.properties) : IsProperMember known (.inl property) := by
  have hknows : ∀ n ∈ property.classNames, n ∈ known := fun n hn => by
    refine h.knows n ?_
    simp only [Interface.classNames, List.mem_append, List.mem_flatMap]
    exact .inl (.inr ⟨property, hproperty, hn⟩)
  simp only [Property.classNames, optionalClassNames, List.forall_mem_append,
    List.mem_flatMap] at hknows
  refine ⟨h.isNamed.properties property hproperty, hknows.1.1, fun type htype n hn =>
    hknows.1.2 n ⟨type, by simpa using htype, hn⟩, fun use huse => h.isProperUse ?_⟩
  simp only [Interface.annotationUses, List.mem_append, List.mem_flatMap]
  exact .inl (.inr ⟨property, hproperty, huse⟩)

theorem isProperMember_function (h : IsProperInterface known interface) {function : Function}
    (hfunction : function ∈ interface.functions) : IsProperMember known (.inr function) := by
  have hknows : ∀ n ∈ function.classNames, n ∈ known := fun n hn => by
    refine h.knows n ?_
    simp only [Interface.classNames, List.mem_append, List.mem_flatMap]
    exact .inr ⟨function, hfunction, hn⟩
  simp only [Function.classNames, optionalClassNames, List.forall_mem_append,
    List.mem_flatMap] at hknows
  refine ⟨h.isNamed.functions function hfunction, fun type htype n hn =>
    hknows.1.2 n ⟨type, by simpa using htype, hn⟩, fun type htype n hn =>
    hknows.1.1 n ⟨type, by simpa using htype, hn⟩, fun use huse => h.isProperUse ?_⟩
  simp only [Interface.annotationUses, List.mem_append, List.mem_flatMap]
  exact .inr ⟨function, hfunction, huse⟩

theorem isProperMember (h : IsProperInterface known interface) :
    ∀ member ∈ interface.members, IsProperMember known member := by
  rw [Interface.members, List.forall_mem_append, List.forall_mem_map, List.forall_mem_map]
  exact ⟨fun _ hp => h.isProperMember_property hp, fun _ hf => h.isProperMember_function hf⟩

end IsProperInterface

/-- **An interface is determined by its text.** -/
theorem determined_interfaceChars (hnames : names.Separates known) {interface : Interface}
    (h : IsProperInterface known interface) :
    Determined (interfaceChars names) (IsProperInterface known) (fun _ => True) interface := by
  intro b r s hb _ _ heq
  simp only [interfaceChars, List.append_assoc] at heq
  obtain ⟨huses, hdeclaration⟩ := useLines_append_inj hnames [] h.isProperUse_annotations
    hb.isProperUse_annotations
    (head?_interfaceKeyword _) (head?_interfaceKeyword _) heq
  obtain ⟨hname, hbody⟩ := escape_append_inj h.isNamed.name hb.isNamed.name
    (avoids_bodyChars _ _) (avoids_bodyChars _ _) (List.append_cancel_left hdeclaration)
  obtain ⟨hmembers, hrest⟩ := bodyChars_append_inj hnames h.isProperMember hb.isProperMember hbody
  obtain ⟨hproperties, hfunctions⟩ := members_inj hmembers
  obtain ⟨name, annotations, properties, functions⟩ := interface
  obtain ⟨name', annotations', properties', functions'⟩ := b
  simp only at hname huses hproperties hfunctions
  rw [hname, huses, hproperties, hfunctions]
  exact ⟨rfl, hrest⟩

end Wiring.Kotlin
