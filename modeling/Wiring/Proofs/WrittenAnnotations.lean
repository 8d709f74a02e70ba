import Wiring.Proofs.WrittenValues

/-!
# Written annotations

An annotation is determined by its text: its use site, its class, and the names and values of its
arguments. What it is given as code is the code of one list of arguments only.

* `AnnotationUse.HasArguments`: the arguments that an annotation is given;
* **`determined_argumentChars`**, **`determined_renderUse`**: arguments and annotations;
* **`arguments_unique`**: the arguments of an annotation.
-/

namespace Wiring

/-- The names in an argument are identifiers. -/
structure AnnotationArgument.IsNamed (argument : AnnotationArgument) : Prop where
  name : ∀ name ∈ argument.name, Text.isIdentifier name
  value : argument.value.EntriesNamed

namespace Kotlin

open Text

/-- What an annotation is given is the list of arguments. A class literal that is given by itself is
an argument without a name. -/
structure AnnotationUse.HasArguments (use : AnnotationUse) (arguments : List AnnotationArgument) :
    Prop where
  members : use.members = arguments.map AnnotationUse.argumentCode
  isNamed : ∀ argument ∈ arguments, argument.IsNamed

example (name : QualifiedName) :
    AnnotationUse.argumentCode ⟨none, .classLiteral name⟩ = Code.classLiteral name := by rfl

variable {names : NameTable} {known : List QualifiedName}

/-! ## Arguments -/

variable (names) in
/-- The characters of an argument. -/
def argumentChars (argument : AnnotationArgument) : List Char :=
  Code.chars names (AnnotationUse.argumentCode argument)

theorem argumentChars_none (value : AnnotationValue) :
    argumentChars names ⟨none, value⟩ = Code.valueChars names value := rfl

theorem argumentChars_some (name : String) (value : AnnotationValue) :
    argumentChars names ⟨some name, value⟩ =
      name.toList ++ ' ' :: '=' :: ' ' :: Code.valueChars names value := by
  change Code.chars names (Code.literal (name ++ " = ") ++ Code.ofValue value) = _
  rw [Code.chars_append, Code.chars_literal]
  simp [Code.valueChars]

structure IsProperArgument (known : List QualifiedName) (argument : AnnotationArgument) :
    Prop where
  name : ∀ name ∈ argument.name, isIdentifier name
  value : IsProperValue known argument.value

/-- The first word of a value has no blank after it. -/
theorem head?_dropWhile_valueChars (hnames : names.Separates known) {value : AnnotationValue}
    (hvalue : IsProperValue known value) {r : List Char} (hr : Avoids continuesValue r) :
    ((Code.valueChars names value ++ r).dropWhile isNameChar).head? ≠ some ' ' := by
  obtain ⟨c, hc, t, heq⟩ | ⟨w, t, hw, heq, ht⟩ := valueChars_form hnames hvalue
  · have hsign : isNameChar c = false ∧ c ≠ ' ' := by
      simp only [List.mem_cons, List.not_mem_nil, or_false] at hc
      rcases hc with rfl | rfl | rfl <;> exact ⟨by decide, by decide⟩
    rw [heq, List.cons_append, List.dropWhile_cons_of_neg (by simp [hsign.1])]
    simpa using hsign.2
  · obtain rfl | ht := ht
    · rw [heq, List.append_nil,
        dropWhile_append_of_avoids hw.chars (hr.mono continuesValue_of_isNameChar)]
      exact hr.head?_ne (by decide)
    · obtain ⟨t, rfl⟩ := List.head?_eq_some_iff.1 ht
      rw [heq, List.append_assoc, List.cons_append,
        dropWhile_append_of_avoids hw.chars (avoids_cons.2 (by decide))]
      simp

theorem named_append_ne_value (hnames : names.Separates known) {name : String}
    (hname : isIdentifier name) (value : AnnotationValue) {other : AnnotationValue}
    (hother : IsProperValue known other) {s : List Char} (hs : Avoids continuesValue s)
    (r : List Char) :
    argumentChars names ⟨some name, value⟩ ++ r ≠ argumentChars names ⟨none, other⟩ ++ s := by
  intro h
  refine head?_dropWhile_valueChars hnames hother hs ?_
  rw [argumentChars_none] at h
  rw [← h, argumentChars_some, List.append_assoc, List.cons_append,
    dropWhile_append_of_avoids (isWord_of_isIdentifier hname).chars (avoids_cons.2 (by decide))]
  simp

/-- **An argument is determined by its text.** -/
theorem determined_argumentChars (hnames : names.Separates known) {argument : AnnotationArgument}
    (hargument : IsProperArgument known argument) :
    Determined (argumentChars names) (IsProperArgument known) (Avoids continuesValue) argument := by
  intro b r s hb hr hs h
  obtain ⟨name, value⟩ := argument
  obtain ⟨name', value'⟩ := b
  cases name with
  | none =>
    cases name' with
    | none =>
      obtain ⟨rfl, hrest⟩ := determined_valueChars hnames hargument.value hb.value hr hs h
      exact ⟨rfl, hrest⟩
    | some name' =>
      exact absurd h.symm
        (named_append_ne_value hnames (hb.name _ rfl) value' hargument.value hr s)
  | some name =>
    cases name' with
    | none =>
      exact absurd h (named_append_ne_value hnames (hargument.name _ rfl) value hb.value hs r)
    | some name' =>
      simp only [argumentChars_some, List.append_assoc] at h
      obtain ⟨hword, hrest⟩ := word_append_inj (isWord_of_isIdentifier (hargument.name _ rfl)).chars
        (isWord_of_isIdentifier (hb.name _ rfl)).chars (avoids_cons.2 (by decide))
        (avoids_cons.2 (by decide)) h
      obtain rfl := String.toList_inj.1 hword
      obtain ⟨rfl, heq⟩ := determined_valueChars hnames hargument.value hb.value hr hs
        (by simpa using hrest)
      exact ⟨rfl, heq⟩

theorem argumentChars_append_ne_cons (hnames : names.Separates known)
    {argument : AnnotationArgument} (hargument : IsProperArgument known argument)
    (r s : List Char) : argumentChars names argument ++ r ≠ ')' :: s := by
  obtain ⟨name, value⟩ := argument
  cases name with
  | none => exact valueChars_append_ne_cons hnames hargument.value (.inr rfl) r s
  | some name =>
    rw [argumentChars_some, List.append_assoc]
    exact (isWord_of_isIdentifier (hargument.name _ rfl)).append_ne_cons (by decide) _ _

/-- The arguments between parentheses are determined by their text. -/
theorem arguments_close_inj (hnames : names.Separates known) {as bs : List AnnotationArgument}
    (has : ∀ a ∈ as, IsProperArgument known a) (hbs : ∀ b ∈ bs, IsProperArgument known b)
    {r s : List Char}
    (h : [',', ' '].intercalate (as.map (argumentChars names)) ++ ')' :: r =
      [',', ' '].intercalate (bs.map (argumentChars names)) ++ ')' :: s) : as = bs ∧ r = s := by
  exact close_append_inj (by decide) (fun _ => avoids_cons.2 (by decide))
    (fun _ => avoids_cons.2 (by decide))
    (fun argument r s hargument => argumentChars_append_ne_cons hnames hargument r s)
    (fun a ha => ⟨has a ha, determined_argumentChars hnames (has a ha)⟩) hbs h

/-! ## Annotations -/

structure IsProperUse (known : List QualifiedName) (use : AnnotationUse) : Prop where
  arguments : ∃ arguments, use.HasArguments arguments
  knows : ∀ n ∈ use.classNames, n ∈ known

theorem classNames_argumentCode (argument : AnnotationArgument) :
    (AnnotationUse.argumentCode argument).classNames =
      (Code.ofValue argument.value).classNames := by
  obtain ⟨name, value⟩ := argument
  cases name with
  | none => rfl
  | some name =>
    change (Code.literal (name ++ " = ") ++ Code.ofValue value).classNames = _
    rw [Code.classNames_append]
    rfl

variable {use other : AnnotationUse}

/-- The arguments of a proper annotation are proper. -/
theorem IsProperUse.isProperArgument (h : IsProperUse known use)
    {arguments : List AnnotationArgument} (harguments : use.HasArguments arguments) :
    ∀ argument ∈ arguments, IsProperArgument known argument := by
  intro argument hargument
  have hnamed := harguments.isNamed argument hargument
  refine ⟨hnamed.name, hnamed.value, fun n hn => h.knows n (List.mem_cons_of_mem _ ?_)⟩
  rw [harguments.members, List.mem_flatMap]
  exact ⟨_, List.mem_map_of_mem hargument, by rwa [classNames_argumentCode]⟩

theorem map_argumentChars (arguments : List AnnotationArgument) :
    arguments.map (argumentChars names) =
      (arguments.map AnnotationUse.argumentCode).map (Code.chars names) := List.map_map.symm

/-- Two lists of arguments that are given as the same code are equal. -/
theorem arguments_unique (hnames : names.Separates known) (h : IsProperUse known use)
    {as bs : List AnnotationArgument} (has : use.HasArguments as) (hbs : use.HasArguments bs) :
    as = bs := by
  have hmap : as.map (argumentChars names) = bs.map (argumentChars names) := by
    rw [map_argumentChars, ← has.members, hbs.members, ← map_argumentChars]
  have htext : [',', ' '].intercalate (as.map (argumentChars names)) ++ [')'] =
      [',', ' '].intercalate (bs.map (argumentChars names)) ++ [')'] := by rw [hmap]
  exact (arguments_close_inj hnames (h.isProperArgument has) (h.isProperArgument hbs) htext).1

/-- The characters of a use site. -/
def siteChars : Option UseSite → List Char
  | none => []
  | some site => site.keyword.toList ++ [':']

variable (names) in
/-- The characters of the arguments of an annotation. -/
def membersChars (arguments : List AnnotationArgument) : List Char :=
  if arguments.isEmpty then []
  else '(' :: ([',', ' '].intercalate (arguments.map (argumentChars names)) ++ [')'])

theorem toList_renderUse {arguments : List AnnotationArgument}
    (h : use.HasArguments arguments) :
    (use.render names).toList = '@' :: (siteChars use.useSite ++
      ((names.text use.name).toList ++ membersChars names arguments)) := by
  obtain ⟨name, members, useSite⟩ := use
  obtain rfl := h.members
  rw [membersChars, map_argumentChars]
  cases useSite <;> cases arguments <;>
    simp [AnnotationUse.render, siteChars, Code.chars, Function.comp_def]

/-- Whether a character may go on with an annotation. -/
def continuesUse (c : Char) : Bool := isNameChar c || c = ':' || c = '('

theorem avoids_membersChars {p : Char → Bool} {arguments : List AnnotationArgument} {r : List Char}
    (hp : p '(' = false) (hr : Avoids p r) : Avoids p (membersChars names arguments ++ r) := by
  cases arguments with
  | nil => exact hr
  | cons argument arguments => exact avoids_cons.2 hp

theorem isWord_keyword (site : UseSite) : IsWord site.keyword := by
  cases site
  · exact isWord_of_isIdentifier (by decide)
  · exact isWord_of_isIdentifier (by decide)

/-- After the name of an annotation comes no colon, as it does after a use site. -/
theorem siteChars_append_ne {w : String} (hw : IsWord w) {r : List Char}
    (hr : Avoids isNameChar r) (hcolon : r.head? ≠ some ':') (site : UseSite) (s : List Char) :
    w.toList ++ r ≠ siteChars (some site) ++ s := by
  intro h
  rw [siteChars, List.append_assoc] at h
  obtain ⟨-, hrest⟩ := word_append_inj hw.chars (isWord_keyword site).chars hr
    (avoids_cons.2 (by decide)) h
  exact hcolon (by simp [hrest])

theorem keyword_inj {site other : UseSite} {r s : List Char}
    (h : siteChars (some site) ++ r = siteChars (some other) ++ s) : site = other := by
  have hhead := congrArg List.head? h
  clear h
  cases site <;> cases other <;> first | rfl | simp [siteChars, UseSite.keyword] at hhead

theorem siteChars_append_inj (hnames : names.Separates known) {a b : Option UseSite}
    {m n : QualifiedName} (hm : m ∈ known) (hn : n ∈ known) {r s : List Char}
    (hr : Avoids isNameChar r) (hrcolon : r.head? ≠ some ':') (hs : Avoids isNameChar s)
    (hscolon : s.head? ≠ some ':')
    (h : siteChars a ++ ((names.text m).toList ++ r) =
      siteChars b ++ ((names.text n).toList ++ s)) : a = b ∧ m = n ∧ r = s := by
  cases a with
  | none =>
    cases b with
    | none => exact ⟨rfl, hnames.append_inj hm hn hr hs h⟩
    | some site => exact absurd h (siteChars_append_ne (hnames.isWord m hm) hr hrcolon site _)
  | some site =>
    cases b with
    | none => exact absurd h.symm (siteChars_append_ne (hnames.isWord n hn) hs hscolon site _)
    | some site' =>
      obtain rfl := keyword_inj h
      exact ⟨rfl, hnames.append_inj hm hn hr hs (List.append_cancel_left h)⟩

theorem membersChars_append_inj (hnames : names.Separates known) {as bs : List AnnotationArgument}
    (has : ∀ a ∈ as, IsProperArgument known a) (hbs : ∀ b ∈ bs, IsProperArgument known b)
    {r s : List Char} (hr : r.head? ≠ some '(') (hs : s.head? ≠ some '(')
    (h : membersChars names as ++ r = membersChars names bs ++ s) : as = bs ∧ r = s := by
  cases as with
  | nil =>
    cases bs with
    | nil => exact ⟨rfl, h⟩
    | cons b bs => exact absurd (congrArg List.head? h) hr
  | cons a as =>
    cases bs with
    | nil => exact absurd (congrArg List.head? h.symm) hs
    | cons b bs =>
      refine arguments_close_inj hnames has hbs ?_
      simpa [membersChars] using h

/-- **An annotation is determined by its text.** -/
theorem determined_renderUse (hnames : names.Separates known) (h : IsProperUse known use) :
    Determined (fun use => (AnnotationUse.render names use).toList) (IsProperUse known)
      (Avoids continuesUse) use := by
  intro b r s hb hr hs heq
  obtain ⟨as, has⟩ := h.arguments
  obtain ⟨bs, hbs⟩ := hb.arguments
  have hends : ∀ {t : List Char} (arguments : List AnnotationArgument), Avoids continuesUse t →
      Avoids isNameChar (membersChars names arguments ++ t) ∧
        (membersChars names arguments ++ t).head? ≠ some ':' ∧ t.head? ≠ some '(' := by
    intro t arguments ht
    have hbreak : Avoids isNameChar t := ht.mono (by simp +contextual [continuesUse])
    have hcolon : Avoids (· = ':') t := ht.mono (by simp +contextual [continuesUse])
    exact ⟨avoids_membersChars (by decide) hbreak,
      (avoids_membersChars (by decide) hcolon).head?_ne (by decide), ht.head?_ne (by decide)⟩
  obtain ⟨hrbreak, hrcolon, hrparen⟩ := hends as hr
  obtain ⟨hsbreak, hscolon, hsparen⟩ := hends bs hs
  have hn : use.name ∈ known := h.knows _ List.mem_cons_self
  have hn' : b.name ∈ known := hb.knows _ List.mem_cons_self
  simp only [toList_renderUse has, toList_renderUse hbs, List.cons_append, List.append_assoc,
    List.cons.injEq, true_and] at heq
  obtain ⟨hsite, hname, hmembers⟩ := siteChars_append_inj hnames hn hn' hrbreak hrcolon hsbreak
    hscolon heq
  obtain ⟨rfl, hrest⟩ := membersChars_append_inj hnames (h.isProperArgument has)
    (hb.isProperArgument hbs) hrparen hsparen hmembers
  have hcode : use.members = b.members := has.members.trans hbs.members.symm
  obtain ⟨name, members, useSite⟩ := use
  obtain ⟨name', members', useSite'⟩ := b
  simp_all

end Kotlin

end Wiring
