import Wiring.Kotlin.Render
import Wiring.Proofs.WrittenNames

/-!
# Written types

A type is determined by its text, and so are the receiver and the name of a member.

* `TypeName.Knows`, `TypeName.induction`: the classes in a type, and induction along its arguments;
* **`TypeName.determined_render`**: types;
* `readLead_memberText`: the text of a member shows what form its receiver has;
* **`receiver_append_inj`**: a receiver with the name that follows it.
-/

namespace Wiring.Kotlin

open Text

/-- Induction along the arguments of types. -/
@[elab_as_elim]
theorem TypeName.induction {motive : TypeName → Prop} (star : motive .star)
    (named : ∀ name arguments nullable, (∀ a ∈ arguments, motive a) →
      motive (.named name arguments nullable)) (type : TypeName) : motive type :=
  @TypeName.rec motive (fun types => ∀ a ∈ types, motive a) star named
    (fun _ h => nomatch h) (fun _ _ ha has => List.forall_mem_cons.2 ⟨ha, has⟩) type

theorem TypeName.mem_listClassNames {types : List TypeName} {n : QualifiedName} :
    n ∈ listClassNames types ↔ ∃ type ∈ types, n ∈ type.classNames := by
  induction types with
  | nil => simp [listClassNames]
  | cons type types ih => simp [listClassNames, ih]

theorem TypeName.renderAll_eq (names : NameTable) (types : List TypeName) :
    renderAll names types = types.map (render names) := by
  induction types with
  | nil => rw [renderAll, List.map_nil]
  | cons type types ih => rw [renderAll, ih, List.map_cons]

/-- Whether a character may follow the name of a class in its type. -/
def continuesType (c : Char) : Bool := isNameChar c || c = '<' || c = '?'

theorem continuesType_of_isNameChar (c : Char) (h : isNameChar c) : continuesType c := by
  simp [continuesType, h]

/-- The mark of a type that allows null. -/
def nullMark (nullable : Bool) : List Char := if nullable then ['?'] else []

theorem nullMark_append_inj {a b : Bool} {r s : List Char} (hr : Avoids (· = '?') r)
    (hs : Avoids (· = '?') s) (h : nullMark a ++ r = nullMark b ++ s) : a = b ∧ r = s := by
  cases a <;> cases b
  · exact ⟨rfl, h⟩
  · simp [nullMark] at h
    simp [h] at hr
  · simp [nullMark] at h
    simp [← h] at hs
  · exact ⟨rfl, by simpa [nullMark] using h⟩

variable {names : NameTable} {known : List QualifiedName}

variable (names) in
/-- The text of the arguments of a type. -/
def argumentsText (arguments : List TypeName) : List Char :=
  (angled (arguments.map (TypeName.render names))).toList

theorem argumentsText_nil : argumentsText names [] = [] := rfl

theorem argumentsText_cons (type : TypeName) (types : List TypeName) :
    argumentsText names (type :: types) = '<' ::
      ([',', ' '].intercalate ((type :: types).map fun t => (t.render names).toList) ++ ['>']) := by
  simp [argumentsText, angled, String.toList_intercalate, Function.comp_def]

theorem TypeName.toList_render_star : (star.render names).toList = ['*'] := by
  rw [render]
  rfl

theorem TypeName.toList_render_named (name : QualifiedName) (arguments : List TypeName)
    (nullable : Bool) :
    ((TypeName.named name arguments nullable).render names).toList =
      (names.text name).toList ++ (argumentsText names arguments ++ nullMark nullable) := by
  rw [render, renderAll_eq]
  cases nullable <;> simp [argumentsText, nullMark]

theorem head?_argumentsText_cons (type : TypeName) (types : List TypeName) (r : List Char) :
    (argumentsText names (type :: types) ++ r).head? = some '<' := by
  simp [argumentsText_cons]

theorem avoids_argumentsText_cons (type : TypeName) (types : List TypeName) (r : List Char) :
    Avoids isNameChar (argumentsText names (type :: types) ++ r) := by
  rw [argumentsText_cons, List.cons_append, avoids_cons]
  decide

/-- What follows the name of a class in its type does not go on with the name. -/
theorem avoids_argumentsText {arguments : List TypeName} {r : List Char}
    (hr : Avoids isNameChar r) : Avoids isNameChar (argumentsText names arguments ++ r) := by
  cases arguments with
  | nil => exact hr
  | cons type types => exact avoids_argumentsText_cons type types r

theorem avoids_nullMark {nullable : Bool} {r : List Char} {p : Char → Bool} (hr : Avoids p r)
    (hmark : p '?' = false) : Avoids p (nullMark nullable ++ r) := by
  cases nullable
  · exact hr
  · exact avoids_cons.2 hmark

/-- All classes in a type are known. -/
def TypeName.Knows (known : List QualifiedName) (type : TypeName) : Prop :=
  ∀ n ∈ type.classNames, n ∈ known

theorem TypeName.knows_named {name : QualifiedName} {arguments : List TypeName} {nullable : Bool} :
    (TypeName.named name arguments nullable).Knows known ↔
      name ∈ known ∧ ∀ a ∈ arguments, a.Knows known := by
  simp only [Knows, classNames, List.forall_mem_cons, mem_listClassNames]
  grind

theorem TypeName.named_append_ne_star (hnames : names.Separates known) {name : QualifiedName}
    (hname : name ∈ known) (arguments : List TypeName) (nullable : Bool) (r s : List Char) :
    ((named name arguments nullable).render names).toList ++ s ≠
      (star.render names).toList ++ r := by
  rw [toList_render_named, List.append_assoc, toList_render_star, List.singleton_append]
  exact (hnames.isWord name hname).append_ne_cons (by decide) _ _

theorem TypeName.append_ne_cons (hnames : names.Separates known) {type : TypeName}
    (h : type.Knows known) {c : Char} (hc : isNameChar c = false) (hstar : c ≠ '*')
    (r s : List Char) : (type.render names).toList ++ r ≠ c :: s := by
  cases type with
  | star => simpa [toList_render_star] using fun heq => absurd heq.symm hstar
  | named name arguments nullable =>
    rw [toList_render_named, List.append_assoc]
    exact (hnames.isWord name (knows_named.1 h).1).append_ne_cons hc _ _

theorem arguments_append_inj (hnames : names.Separates known) {as bs : List TypeName}
    (has : ∀ a ∈ as, a.Knows known ∧ Determined (fun t => (t.render names).toList)
      (TypeName.Knows known) (Avoids continuesType) a)
    (hbs : ∀ b ∈ bs, b.Knows known) {r s : List Char} (hr : Avoids (· = '<') r)
    (hs : Avoids (· = '<') s) (h : argumentsText names as ++ r = argumentsText names bs ++ s) :
    as = bs ∧ r = s := by
  cases as with
  | nil =>
    cases bs with
    | nil => exact ⟨rfl, h⟩
    | cons b bs =>
      rw [argumentsText_nil, argumentsText_cons, List.nil_append, List.cons_append] at h
      simp [h] at hr
  | cons a as =>
    cases bs with
    | nil =>
      rw [argumentsText_nil, argumentsText_cons, List.nil_append, List.cons_append] at h
      simp [← h] at hs
    | cons b bs =>
      rw [argumentsText_cons, argumentsText_cons, List.cons_append, List.cons_append,
        List.cons.injEq, List.append_assoc, List.append_assoc] at h
      exact close_append_inj (by decide) (fun _ => avoids_cons.2 (by decide))
        (fun _ => avoids_cons.2 (by decide))
        (fun b r s hb => TypeName.append_ne_cons hnames hb (by decide) (by decide) r s) has hbs h.2

/-- **A type is determined by its text.** -/
theorem TypeName.determined_render (hnames : names.Separates known) (type : TypeName) :
    type.Knows known → Determined (fun t => (t.render names).toList) (Knows known)
      (Avoids continuesType) type := by
  induction type using TypeName.induction with
  | star =>
    intro _ b r s hb hr hs h
    cases b with
    | star => exact ⟨rfl, List.append_cancel_left h⟩
    | named name arguments nullable =>
      exact absurd h.symm (named_append_ne_star hnames (knows_named.1 hb).1 _ _ r s)
  | named name arguments nullable ih =>
    intro htype b r s hb hr hs h
    obtain ⟨hname, harguments⟩ := knows_named.1 htype
    cases b with
    | star =>
      exact absurd h (named_append_ne_star hnames hname _ _ s r)
    | named name' arguments' nullable' =>
      obtain ⟨hname', harguments'⟩ := knows_named.1 hb
      -- The class ends where the arguments, the mark or what follows the type begins.
      have hafter : ∀ {t : List Char} (nullable : Bool), Avoids continuesType t →
          Avoids isNameChar (nullMark nullable ++ t) ∧ Avoids (· = '<') (nullMark nullable ++ t) ∧
            Avoids (· = '?') t := fun nullable ht =>
        ⟨avoids_nullMark (ht.mono continuesType_of_isNameChar) (by decide),
          avoids_nullMark (ht.mono (by simp +contextual [continuesType])) (by decide),
          ht.mono (by simp +contextual [continuesType])⟩
      obtain ⟨hr, hrangle, hrmark⟩ := hafter nullable hr
      obtain ⟨hs, hsangle, hsmark⟩ := hafter nullable' hs
      simp only [toList_render_named, List.append_assoc] at h
      obtain ⟨rfl, hlists⟩ := hnames.append_inj hname hname' (avoids_argumentsText hr)
        (avoids_argumentsText hs) h
      obtain ⟨rfl, hmarks⟩ := arguments_append_inj hnames
        (fun a ha => ⟨harguments a ha, ih a ha (harguments a ha)⟩) harguments' hrangle hsangle
        hlists
      obtain ⟨rfl, heq⟩ := nullMark_append_inj hrmark hsmark hmarks
      exact ⟨rfl, heq⟩

/-! ## Receivers -/

variable (names) in
/-- The text of a member's name after its receiver. -/
def memberText (receiver : Option TypeName) (name : String) : List Char :=
  (renderReceiver names receiver ++ escape name).toList

/-- What the text of a member begins with: its name alone, a star, a class and a dot, a class with
arguments, or a parenthesis. -/
inductive Lead where
  | name
  | star
  | dotted
  | generic
  | parenthesis

/-- What the text of a member begins with, by its receiver. -/
inductive Leads : Lead → Option TypeName → Prop
  | name : Leads .name none
  | star : Leads .star (some .star)
  | dotted (name : QualifiedName) : Leads .dotted (some (.named name [] false))
  | generic (name : QualifiedName) (argument : TypeName) (arguments : List TypeName) :
    Leads .generic (some (.named name (argument :: arguments) false))
  | parenthesis (name : QualifiedName) (arguments : List TypeName) :
    Leads .parenthesis (some (.named name arguments true))

theorem exists_leads : ∀ receiver, ∃ lead, Leads lead receiver
  | none => ⟨_, .name⟩
  | some .star => ⟨_, .star⟩
  | some (.named name [] false) => ⟨_, .dotted name⟩
  | some (.named name (argument :: arguments) false) => ⟨_, .generic name argument arguments⟩
  | some (.named name arguments true) => ⟨_, .parenthesis name arguments⟩

def readLead (text : List Char) : Lead :=
  if text.head? = some '*' then .star
  else if text.head? = some '(' then .parenthesis
  else if (text.dropWhile isNameChar).head? = some '<' then .generic
  else if '.' ∈ text.takeWhile isNameChar then .dotted
  else .name

theorem readLead_word {w : String} (hw : IsWord w) {r : List Char} (hr : Avoids isNameChar r) :
    readLead (w.toList ++ r) = if r.head? = some '<' then .generic
      else if '.' ∈ w.toList then .dotted else .name := by
  rw [readLead, if_neg (hw.head?_ne (by decide) r), if_neg (hw.head?_ne (by decide) r),
    dropWhile_append_of_avoids hw.chars hr, takeWhile_append_of_avoids hw.chars hr]

section

variable (name : String)

theorem memberText_none : memberText names none name = (escape name).toList := by
  simp [memberText, renderReceiver]

theorem memberText_star :
    memberText names (some .star) name = '*' :: '.' :: (escape name).toList := by
  simp [memberText, renderReceiver, TypeName.isNullable, TypeName.toList_render_star]

theorem memberText_named (n : QualifiedName) (arguments : List TypeName) :
    memberText names (some (.named n arguments false)) name =
      (names.text n).toList ++ (argumentsText names arguments ++ '.' :: (escape name).toList) := by
  simp [memberText, renderReceiver, TypeName.isNullable, TypeName.toList_render_named, nullMark]

theorem memberText_dotted (n : QualifiedName) :
    memberText names (some (.named n [] false)) name =
      (names.text n ++ "." ++ escape name).toList := by
  simp [memberText_named, argumentsText_nil]

theorem memberText_nullable (n : QualifiedName) (arguments : List TypeName) :
    memberText names (some (.named n arguments true)) name =
      '(' :: (((TypeName.named n arguments true).render names).toList ++
        ')' :: '.' :: (escape name).toList) := by
  simp [memberText, renderReceiver, TypeName.isNullable]

end

def ReceiverKnows (known : List QualifiedName) (receiver : Option TypeName) : Prop :=
  ∀ type ∈ receiver, type.Knows known

theorem isWord_dotted {w : String} (hw : IsWord w) {name : String} (hname : isIdentifier name) :
    IsWord (w ++ "." ++ escape name) :=
  (hw.append (by simp; decide)).append (isWord_escape hname).chars

theorem readLead_memberText (hnames : names.Separates known) {lead : Lead}
    {receiver : Option TypeName} (hlead : Leads lead receiver)
    (hreceiver : ReceiverKnows known receiver) {name : String} (hname : isIdentifier name)
    {r : List Char} (hr : Avoids continuesType r) :
    readLead (memberText names receiver name ++ r) = lead := by
  have hbreak : Avoids isNameChar r := hr.mono continuesType_of_isNameChar
  have hangle : r.head? ≠ some '<' := hr.head?_ne (by decide)
  cases hlead with
  | name =>
    rw [memberText_none, readLead_word (isWord_escape hname) hbreak, if_neg hangle,
      if_neg (dot_not_mem_escape hname)]
  | star => simp [memberText_star, readLead]
  | dotted n =>
    have hn := hnames.isWord n (TypeName.knows_named.1 (hreceiver _ rfl)).1
    rw [memberText_dotted, readLead_word (isWord_dotted hn hname) hbreak, if_neg hangle,
      if_pos (by simp)]
  | generic n a as =>
    have hn := hnames.isWord n (TypeName.knows_named.1 (hreceiver _ rfl)).1
    rw [memberText_named, List.append_assoc, List.append_assoc,
      readLead_word hn (avoids_argumentsText_cons a as _), if_pos (head?_argumentsText_cons a as _)]
  | parenthesis n as => simp [memberText_nullable, readLead]

theorem escape_append_inj {name other : String} (hname : isIdentifier name)
    (hother : isIdentifier other) {r s : List Char} (hr : Avoids isNameChar r)
    (hs : Avoids isNameChar s) (h : (escape name).toList ++ r = (escape other).toList ++ s) :
    name = other ∧ r = s := by
  obtain ⟨hword, hrest⟩ := word_append_inj (isWord_escape hname).chars (isWord_escape hother).chars
    hr hs h
  exact ⟨escape_inj hname hother (String.toList_inj.1 hword), hrest⟩

/-- **A receiver and the name after it are determined by their text.** -/
theorem receiver_append_inj (hnames : names.Separates known) {receiver other : Option TypeName}
    (hreceiver : ReceiverKnows known receiver) (hother : ReceiverKnows known other)
    {name name' : String} (hname : isIdentifier name) (hname' : isIdentifier name')
    {r s : List Char} (hr : Avoids continuesType r) (hs : Avoids continuesType s)
    (h : memberText names receiver name ++ r = memberText names other name' ++ s) :
    receiver = other ∧ name = name' ∧ r = s := by
  have hrbreak : Avoids isNameChar r := hr.mono continuesType_of_isNameChar
  have hsbreak : Avoids isNameChar s := hs.mono continuesType_of_isNameChar
  -- The two texts begin alike, so the two receivers are of one form.
  obtain ⟨lead, hlead⟩ := exists_leads receiver
  obtain ⟨lead', hlead'⟩ := exists_leads other
  obtain rfl : lead = lead' := by
    rw [← readLead_memberText hnames hlead hreceiver hname hr, h,
      readLead_memberText hnames hlead' hother hname' hs]
  cases hlead with
  | name =>
    cases hlead' with
    | name =>
      rw [memberText_none, memberText_none] at h
      exact ⟨rfl, escape_append_inj hname hname' hrbreak hsbreak h⟩
  | star =>
    cases hlead' with
    | star =>
      rw [memberText_star, memberText_star] at h
      exact ⟨rfl, escape_append_inj hname hname' hrbreak hsbreak (by simpa using h)⟩
  | dotted n =>
    cases hlead' with
    | dotted n' =>
      have hn := (TypeName.knows_named.1 (hreceiver _ rfl)).1
      have hn' := (TypeName.knows_named.1 (hother _ rfl)).1
      -- The class and the name are one word, in which the name follows the last dot.
      rw [memberText_dotted, memberText_dotted] at h
      obtain ⟨hword, hrest⟩ := word_append_inj (isWord_dotted (hnames.isWord n hn) hname).chars
        (isWord_dotted (hnames.isWord n' hn') hname').chars hrbreak hsbreak h
      obtain ⟨htext, hescape⟩ := append_cons_inj_of_not_mem (dot_not_mem_escape hname)
        (dot_not_mem_escape hname') (by simpa using hword)
      obtain rfl := hnames.injective n hn n' hn' (String.toList_inj.1 htext)
      exact ⟨rfl, escape_inj hname hname' (String.toList_inj.1 hescape), hrest⟩
  | generic n a as =>
    cases hlead' with
    | generic n' a' as' =>
      obtain ⟨hn, has⟩ := TypeName.knows_named.1 (hreceiver _ rfl)
      obtain ⟨hn', has'⟩ := TypeName.knows_named.1 (hother _ rfl)
      simp only [memberText_named, List.append_assoc] at h
      obtain ⟨rfl, harguments⟩ := hnames.append_inj hn hn' (avoids_argumentsText_cons a as _)
        (avoids_argumentsText_cons a' as' _) h
      obtain ⟨hlists, hrest⟩ := arguments_append_inj hnames
        (fun b hb => ⟨has b hb, TypeName.determined_render hnames b (has b hb)⟩) has'
        (avoids_cons.2 (by decide)) (avoids_cons.2 (by decide)) harguments
      rw [hlists]
      exact ⟨rfl, escape_append_inj hname hname' hrbreak hsbreak (by simpa using hrest)⟩
  | parenthesis n as =>
    cases hlead' with
    | parenthesis n' as' =>
      rw [memberText_nullable, memberText_nullable, List.cons_append, List.cons_append,
        List.cons.injEq, List.append_assoc, List.append_assoc] at h
      obtain ⟨htype, hrest⟩ := TypeName.determined_render hnames _ (hreceiver _ rfl)
        (hother _ rfl) (avoids_cons.2 (by decide)) (avoids_cons.2 (by decide)) h.2
      exact ⟨congrArg some htype,
        escape_append_inj hname hname' hrbreak hsbreak (by simpa using hrest)⟩

end Wiring.Kotlin
