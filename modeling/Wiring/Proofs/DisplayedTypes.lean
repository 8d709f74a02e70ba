import Wiring.Proofs.WrittenTypes

/-!
# Displayed types

A type is displayed with the names of its classes as they are, and written piece after piece. As
long as none of the characters that stand around arguments and marks occurs in these names, the text
tells which type it is, also if names are empty.

* `TypeRef.induction`, `TypeRef.names`: induction along arguments, and the classes in a type;
* `TypeRef.writeOn_eq`, `TypeRef.display_mk`: what is written behind an output, put together from the
  texts of the arguments;
* `TypeRef.argumentsText`, `TypeRef.toList_display`: the text of a type, part by part;
* **`TypeRef.determined_display`**: no other type has the text of a type, whatever follows it;
* **`TypeRef.display_inj`**: types with the same text are the same.
-/

namespace Wiring

open Text Kotlin

namespace TypeRef

/-- Induction along the arguments of types. -/
@[elab_as_elim]
theorem induction {motive : TypeRef → Prop}
    (mk : ∀ head arguments nullable,
      (∀ ref, TypeArgument.type ref ∈ arguments → motive ref) → motive ⟨head, arguments, nullable⟩)
    (ref : TypeRef) : motive ref :=
  @TypeRef.rec motive (fun arguments => ∀ ref, TypeArgument.type ref ∈ arguments → motive ref)
    (fun argument => ∀ ref, argument = TypeArgument.type ref → motive ref) mk
    (fun _ h => nomatch h)
    (fun _ _ hhead htail ref h => (List.mem_cons.1 h).elim (hhead ref ·.symm) (htail ref))
    (fun _ h => nomatch h) (fun _ href _ h => TypeArgument.type.inj h ▸ href) ref

mutual

/-- The classes in a type. -/
def names : TypeRef → List QualifiedName
  | ⟨head, arguments, _⟩ => head :: argumentNames arguments
  termination_by structural ref => ref

/-- The classes in the arguments of a type. -/
def argumentNames : List (TypeArgument TypeRef) → List QualifiedName
  | [] => []
  | .star :: rest => argumentNames rest
  | .type ref :: rest => ref.names ++ argumentNames rest
  termination_by structural arguments => arguments

end

theorem mem_argumentNames {arguments : List (TypeArgument TypeRef)} {n : QualifiedName} :
    n ∈ argumentNames arguments ↔ ∃ ref, TypeArgument.type ref ∈ arguments ∧ n ∈ ref.names := by
  induction arguments with
  | nil => simp [argumentNames]
  | cons argument rest ih => cases argument <;> simp [argumentNames, ih, or_and_right, exists_or]

/-! ## Names without marks -/

/-- The characters that stand around arguments and marks. -/
def marks : List Char := ['<', '>', ',', '?', '*']

/-- Whether a character may stand in the name of a class. -/
def isPlain (c : Char) : Bool := c ∉ marks

/-- None of the classes in a type has a mark in its name. -/
def HasPlainNames (ref : TypeRef) : Prop := ∀ n ∈ ref.names, ∀ c ∈ n.text.toList, isPlain c

theorem hasPlainNames_mk {head : QualifiedName} {arguments : List (TypeArgument TypeRef)}
    {nullable : Bool} :
    HasPlainNames ⟨head, arguments, nullable⟩ ↔ (∀ c ∈ head.text.toList, isPlain c) ∧
      ∀ ref, TypeArgument.type ref ∈ arguments → ref.HasPlainNames := by
  simp only [HasPlainNames, names, List.forall_mem_cons, mem_argumentNames]
  grind

/-! ## Writing behind an output -/

/-- The text of an argument. -/
def argumentText : TypeArgument TypeRef → String
  | .star => "*"
  | .type ref => ref.display

/-- An argument is written behind the output and the comma that may be missing. -/
theorem writeArguments_cons {argument : TypeArgument TypeRef}
    (h : ∀ ref, argument = .type ref → ∀ out, ref.writeOn out = out ++ ref.display)
    (rest : List (TypeArgument TypeRef)) (isFirst : Bool) (out : String) :
    writeArguments (argument :: rest) isFirst out =
      writeArguments rest false
        (out ++ ((if isFirst then "" else ", ") ++ argumentText argument)) := by
  cases argument with
  | star => cases isFirst <;> simp [writeArguments, argumentText, String.append_assoc]
  | type ref =>
    cases isFirst <;> simp [writeArguments, argumentText, h ref rfl, String.append_assoc]

theorem writeArguments_eq {arguments : List (TypeArgument TypeRef)}
    (h : ∀ ref, TypeArgument.type ref ∈ arguments → ∀ out, ref.writeOn out = out ++ ref.display)
    (hne : arguments ≠ []) (isFirst : Bool) (out : String) :
    writeArguments arguments isFirst out =
      out ++ ((if isFirst then "" else ", ") ++ ", ".intercalate (arguments.map argumentText)) := by
  induction arguments generalizing isFirst out with
  | nil => exact absurd rfl hne
  | cons argument rest ih =>
    rw [writeArguments_cons fun ref href => h ref (href ▸ List.mem_cons_self)]
    cases rest with
    | nil => rw [writeArguments, List.map_singleton, String.intercalate_singleton]
    | cons next rest =>
      rw [ih (fun ref hmem => h ref (List.mem_cons_of_mem _ hmem)) (List.cons_ne_nil _ _),
        if_neg Bool.false_ne_true]
      simp only [List.map_cons, String.intercalate_cons_cons, String.append_assoc]

/-- What is written for a type, if its arguments are written as they are displayed. -/
theorem writeOn_mk (head : QualifiedName) {arguments : List (TypeArgument TypeRef)}
    (h : ∀ ref, TypeArgument.type ref ∈ arguments → ∀ out, ref.writeOn out = out ++ ref.display)
    (nullable : Bool) (out : String) :
    writeOn ⟨head, arguments, nullable⟩ out =
      out ++ (head.text ++ angled (arguments.map argumentText) ++
        (if nullable then "?" else "")) := by
  have happlied : (if arguments.isEmpty then out ++ head.text
      else writeArguments arguments true (out ++ head.text ++ "<") ++ ">") =
        out ++ (head.text ++ angled (arguments.map argumentText)) := by
    cases arguments with
    | nil => simp [angled]
    | cons argument rest =>
      rw [writeArguments_eq h (List.cons_ne_nil _ _)]
      simp [angled, String.append_assoc]
  rw [writeOn, happlied]
  cases nullable <;> simp [String.append_assoc]

/-- **A type that is written piece after piece is displayed** behind the output. -/
theorem writeOn_eq (ref : TypeRef) (out : String) : ref.writeOn out = out ++ ref.display := by
  induction ref using TypeRef.induction generalizing out with
  | mk head arguments nullable ih =>
    have hwritten := writeOn_mk head ih nullable
    rw [display, hwritten, hwritten, String.empty_append]

/-- The text of a type: the class, its arguments in angle brackets, a question mark. -/
theorem display_mk (head : QualifiedName) (arguments : List (TypeArgument TypeRef))
    (nullable : Bool) :
    display ⟨head, arguments, nullable⟩ =
      head.text ++ angled (arguments.map argumentText) ++ (if nullable then "?" else "") := by
  rw [display, writeOn_mk head fun ref _ => ref.writeOn_eq, String.empty_append]

/-! ## The parts of a text -/

/-- The text of the arguments of a type, with their brackets. -/
def argumentsText (arguments : List (TypeArgument TypeRef)) : List Char :=
  (angled (arguments.map argumentText)).toList

theorem argumentsText_nil : argumentsText [] = [] := rfl

theorem argumentsText_cons (a : TypeArgument TypeRef) (as : List (TypeArgument TypeRef)) :
    argumentsText (a :: as) = '<' ::
      ([',', ' '].intercalate ((a :: as).map fun a => (argumentText a).toList) ++ ['>']) := by
  simp [argumentsText, angled, String.toList_intercalate, Function.comp_def]

theorem toList_display (head : QualifiedName) (arguments : List (TypeArgument TypeRef))
    (nullable : Bool) :
    (display ⟨head, arguments, nullable⟩).toList =
      head.text.toList ++ (argumentsText arguments ++ nullMark nullable) := by
  rw [display_mk]
  cases nullable <;> simp [argumentsText, nullMark]

/-! ## What follows a type -/

/-- Whether a character may not follow a type. Only a comma and a closing bracket may. -/
def cannotFollow (c : Char) : Bool := c ≠ ',' && c ≠ '>'

theorem cannotFollow_of_isPlain (c : Char) (h : isPlain c) : cannotFollow c := by
  simp_all [isPlain, marks, cannotFollow]

/-- What is not plain follows the name of a class in its type. -/
theorem avoids_after_head {p : Char → Bool} (hp : ∀ c, p c → cannotFollow c)
    (hbracket : p '<' = false) (hmark : p '?' = false) {arguments : List (TypeArgument TypeRef)}
    {nullable : Bool} {r : List Char} (hr : Avoids cannotFollow r) :
    Avoids p (argumentsText arguments ++ (nullMark nullable ++ r)) := by
  cases arguments with
  | nil => exact avoids_nullMark (hr.mono hp) hmark
  | cons a as => rwa [argumentsText_cons, List.cons_append, avoids_cons]

theorem display_append_ne_star {ref : TypeRef} (h : ref.HasPlainNames) {r : List Char}
    (hr : Avoids cannotFollow r) (s : List Char) : ref.display.toList ++ r ≠ '*' :: s := by
  obtain ⟨head, arguments, nullable⟩ := ref
  obtain ⟨hhead, -⟩ := hasPlainNames_mk.1 h
  intro heq
  rw [toList_display, List.append_assoc, List.append_assoc] at heq
  cases hname : head.text.toList with
  | nil =>
    rw [hname, List.nil_append] at heq
    have hafter : Avoids (· = '*') (argumentsText arguments ++ (nullMark nullable ++ r)) :=
      avoids_after_head (by simp [cannotFollow]) (by decide) (by decide) hr
    exact hafter.head?_ne (c := '*') (by decide) (by rw [heq, List.head?_cons])
  | cons c cs =>
    rw [hname, List.cons_append, List.cons.injEq] at heq
    have hc := hhead c (hname ▸ List.mem_cons_self)
    rw [heq.1] at hc
    exact absurd hc (by decide)

/-! ## Types -/

/-- What an argument is determined by, if it is a type. -/
def HasPlainArgument (argument : TypeArgument TypeRef) : Prop :=
  ∀ ref, argument = .type ref → ref.HasPlainNames

/-- An argument is determined by its text if it is a star or a type that is. -/
theorem determined_argumentText {argument : TypeArgument TypeRef}
    (h : ∀ ref, argument = .type ref → ref.HasPlainNames ∧
      Determined (fun t => t.display.toList) HasPlainNames (Avoids cannotFollow) ref) :
    Determined (fun a => (argumentText a).toList) HasPlainArgument (Avoids cannotFollow)
      argument := by
  intro other r s hother hr hs heq
  cases argument with
  | star =>
    cases other with
    | star => exact ⟨rfl, List.append_cancel_left heq⟩
    | type ref => exact absurd heq.symm (display_append_ne_star (hother ref rfl) hs r)
  | type ref =>
    obtain ⟨hplain, hdetermined⟩ := h ref rfl
    cases other with
    | star => exact absurd heq (display_append_ne_star hplain hr s)
    | type ref' =>
      obtain ⟨rfl, hrest⟩ := hdetermined (hother ref' rfl) hr hs heq
      exact ⟨rfl, hrest⟩

theorem argumentsText_append_inj {as bs : List (TypeArgument TypeRef)}
    (has : ∀ a ∈ as, HasPlainArgument a ∧
      Determined (fun a => (argumentText a).toList) HasPlainArgument (Avoids cannotFollow) a)
    (hbs : ∀ b ∈ bs, HasPlainArgument b) {r s : List Char} (hr : Avoids (· = '<') r)
    (hs : Avoids (· = '<') s) (h : argumentsText as ++ r = argumentsText bs ++ s) :
    as = bs ∧ r = s := by
  cases as with
  | nil =>
    cases bs with
    | nil => exact ⟨rfl, h⟩
    | cons b bs =>
      rw [argumentsText_nil, argumentsText_cons, List.nil_append, List.cons_append] at h
      simp [h] at hr
  | cons a as =>
    cases bs with
    | nil =>
      rw [argumentsText_nil, argumentsText_cons, List.nil_append, List.cons_append] at h
      simp [← h] at hs
    | cons b bs =>
      rw [argumentsText_cons, argumentsText_cons, List.cons_append, List.cons_append,
        List.cons.injEq, List.append_assoc, List.append_assoc] at h
      -- An empty name may stand before the bracket, so only the bracket shows that this is the end.
      have hclose : ∀ t, Avoids cannotFollow ('>' :: t) ∧ ¬[',', ' '] <+: '>' :: t := fun t =>
        ⟨avoids_cons.2 (by decide), by simp⟩
      obtain ⟨heq, hrest⟩ := intercalate_append_inj (fun _ => avoids_cons.2 (by decide)) has hbs
        (hclose r) (hclose s) h.2
      exact ⟨heq, (List.cons.inj hrest).2⟩

/-- **A type is determined by its text**, before a comma, a closing bracket or the end. -/
theorem determined_display (ref : TypeRef) : ref.HasPlainNames →
    Determined (fun t => t.display.toList) HasPlainNames (Avoids cannotFollow) ref := by
  induction ref using TypeRef.induction with
  | mk head arguments nullable ih =>
    intro href other r s hother hr hs h
    obtain ⟨head', arguments', nullable'⟩ := other
    obtain ⟨hhead, harguments⟩ := hasPlainNames_mk.1 href
    obtain ⟨hhead', harguments'⟩ := hasPlainNames_mk.1 hother
    simp only [toList_display, List.append_assoc] at h
    -- The class ends where the arguments, the mark or what follows the type begins.
    obtain ⟨hnames, hlists⟩ := word_append_inj hhead hhead'
      (avoids_after_head cannotFollow_of_isPlain (by decide) (by decide) hr)
      (avoids_after_head cannotFollow_of_isPlain (by decide) (by decide) hs) h
    have hangle : ∀ {t : List Char} (nullable : Bool), Avoids cannotFollow t →
        Avoids (· = '<') (nullMark nullable ++ t) := fun nullable ht =>
      avoids_nullMark (ht.mono (by simp [cannotFollow])) (by decide)
    obtain ⟨rfl, hmarks⟩ := argumentsText_append_inj
      (fun a ha => ⟨fun ref hr => harguments ref (hr ▸ ha), determined_argumentText fun ref hr =>
        ⟨harguments ref (hr ▸ ha), ih ref (hr ▸ ha) (harguments ref (hr ▸ ha))⟩⟩)
      (fun b hb ref hr => harguments' ref (hr ▸ hb)) (hangle nullable hr) (hangle nullable' hs)
      hlists
    obtain ⟨rfl, heq⟩ := nullMark_append_inj (hr.mono (by simp [cannotFollow]))
      (hs.mono (by simp [cannotFollow])) hmarks
    have hname : head = head' := by
      cases head
      cases head'
      exact congrArg QualifiedName.mk (String.toList_inj.1 hnames)
    exact ⟨by rw [hname], heq⟩

/-- **Types with the same text are the same**, if none of the classes in them has a bracket, a
comma, a question mark or a star in its name. -/
theorem display_inj {a b : TypeRef}
    (ha : ∀ n ∈ a.names, ∀ c ∈ n.text.toList, c ∉ ['<', '>', ',', '?', '*'])
    (hb : ∀ n ∈ b.names, ∀ c ∈ n.text.toList, c ∉ ['<', '>', ',', '?', '*'])
    (h : a.display = b.display) : a = b := by
  have hplain : ∀ {ref : TypeRef},
      (∀ n ∈ ref.names, ∀ c ∈ n.text.toList, c ∉ ['<', '>', ',', '?', '*']) →
        ref.HasPlainNames := fun href n hn c hc => decide_eq_true (href n hn c hc)
  have htext : a.display.toList ++ [] = b.display.toList ++ [] := by rw [h]
  exact (determined_display a (hplain ha) (hplain hb) (by simp [Avoids]) (by simp [Avoids])
    htext).1

/-- A type whose arguments are an empty name, a star, and a blank with an empty argument of its own
that allows null. -/
def crowdedType : TypeRef :=
  ⟨⟨"p.Map"⟩, [.type (.ofClass ⟨""⟩), .star, .type ⟨⟨" "⟩, [.type (.ofClass ⟨""⟩)], true⟩], true⟩

/-- The same type, made argument by argument. -/
theorem display_inj_crowdedType :
    let blank := ((ofClass ⟨" "⟩).withArgument (.type (.ofClass ⟨""⟩))).orNull
    let other := ((((ofClass ⟨"p.Map"⟩).orNull.withArgument (.type (.ofClass ⟨""⟩))).withArgument
      .star).withArgument (.type blank))
    crowdedType.names = [⟨"p.Map"⟩, ⟨""⟩, ⟨" "⟩, ⟨""⟩] ∧
      crowdedType.display = "p.Map<, *,  <>?>?" ∧ other.display = "p.Map<, *,  <>?>?" ∧
      crowdedType = other := by
  intro blank other
  have hnames : crowdedType.names = [⟨"p.Map"⟩, ⟨""⟩, ⟨" "⟩, ⟨""⟩] := rfl
  have hplain : ∀ n ∈ crowdedType.names, ∀ c ∈ n.text.toList, c ∉ ['<', '>', ',', '?', '*'] := by
    rw [hnames]
    simp
  have hcrowded : crowdedType.display = "p.Map<, *,  <>?>?" := by decide
  have hother : other.display = "p.Map<, *,  <>?>?" := by decide
  exact ⟨hnames, hcrowded, hother, display_inj hplain hplain (hcrowded.trans hother.symm)⟩

end TypeRef

end Wiring
