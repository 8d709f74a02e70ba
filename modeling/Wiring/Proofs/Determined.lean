import Mathlib.Data.List.Basic

/-!
# Values that their texts determine

A value is determined by its text if no other value is written with that text, whatever follows the
two texts. What may follow is restricted, as a word could otherwise go on in what follows it.

* `Avoids`: texts that do not begin with certain characters; `word_append_inj`;
* `Determined`: what is determined by its text;
* **`determined_flatMap`**, **`determined_intercalate`**: lists of what is determined;
  `intercalate_append_inj`: lists that are not empty; `close_append_inj`: lists up to a closing
  character.
-/

namespace Wiring.Text

/-! ## First characters -/

/-- Whether a text begins with none of the characters. -/
def Avoids (p : Char → Bool) (cs : List Char) : Prop := ∀ c ∈ cs.head?, p c = false

variable {p q : Char → Bool} {cs ds r s : List Char} {c : Char}

@[simp] theorem avoids_cons : Avoids p (c :: cs) ↔ p c = false := by simp [Avoids]

theorem Avoids.mono (h : Avoids p cs) (hle : ∀ c, q c → p c) : Avoids q cs := by
  intro c hc
  have hp := h c hc
  by_contra hq
  rw [hle c (by simpa using hq)] at hp
  cases hp

theorem Avoids.head?_ne (h : Avoids p cs) (hc : p c) : cs.head? ≠ some c := by
  intro hhead
  have hp := h c hhead
  rw [hc] at hp
  cases hp

theorem takeWhile_append_of_avoids (hcs : ∀ c ∈ cs, p c) (hr : Avoids p r) :
    (cs ++ r).takeWhile p = cs := by
  rw [List.takeWhile_append_of_pos hcs]
  cases r with
  | nil => simp
  | cons c r => simp [avoids_cons.1 hr]

theorem dropWhile_append_of_avoids (hcs : ∀ c ∈ cs, p c) (hr : Avoids p r) :
    (cs ++ r).dropWhile p = r := by
  rw [List.dropWhile_append_of_pos hcs]
  cases r with
  | nil => rfl
  | cons c r => simp [avoids_cons.1 hr]

/-- A run of characters ends where the first other character stands. -/
theorem word_append_inj (hcs : ∀ c ∈ cs, p c) (hds : ∀ c ∈ ds, p c) (hr : Avoids p r)
    (hs : Avoids p s) (h : cs ++ r = ds ++ s) : cs = ds ∧ r = s := by
  have hword : cs = ds := by
    rw [← takeWhile_append_of_avoids hcs hr, h, takeWhile_append_of_avoids hds hs]
  subst hword
  exact ⟨rfl, List.append_cancel_left h⟩

/-- A text is cut in two at the last place of a character. -/
theorem append_cons_inj_of_not_mem (hcs : c ∉ cs) (hds : c ∉ ds) (h : r ++ c :: cs = s ++ c :: ds) :
    r = s ∧ cs = ds := by
  -- Read from the end, the character ends a run of other characters.
  have hback : cs.reverse ++ c :: r.reverse = ds.reverse ++ c :: s.reverse := by
    simpa using congrArg List.reverse h
  have hnot : ∀ {ds : List Char}, c ∉ ds → ∀ d ∈ ds.reverse, decide (d ≠ c) := fun hds d hd =>
    decide_eq_true fun heq => hds (heq ▸ List.mem_reverse.1 hd)
  obtain ⟨hright, hleft⟩ := word_append_inj (hnot hcs) (hnot hds) (by simp) (by simp) hback
  exact ⟨List.reverse_inj.1 (List.cons.inj hleft).2, List.reverse_inj.1 hright⟩

/-! ## What is determined by its text -/

variable {α : Type} {write : α → List Char} {proper : α → Prop} {ends : List Char → Prop}

/-- No other proper value has the text of `a`, before whatever may follow. -/
def Determined (write : α → List Char) (proper : α → Prop) (ends : List Char → Prop) (a : α) :
    Prop :=
  ∀ ⦃b r s⦄, proper b → ends r → ends s → write a ++ r = write b ++ s → a = b ∧ r = s

/-- Items that follow each other are determined up to where no item begins. -/
theorem determined_flatMap {starts : List Char → Prop}
    (hstarts : ∀ a r, proper a → starts (write a ++ r)) (hends : ∀ r, starts r → ends r)
    {as : List α} (has : ∀ a ∈ as, proper a ∧ Determined write proper ends a) :
    Determined (List.flatMap write) (∀ b ∈ ·, proper b) (fun r => ends r ∧ ¬starts r) as := by
  -- After an item comes another one or what follows all of them, and either may follow an item.
  have hrest : ∀ bs : List α, (∀ b ∈ bs, proper b) → ∀ r, ends r →
      ends (bs.flatMap write ++ r) := by
    intro bs hbs r hr
    cases bs with
    | nil => exact hr
    | cons b bs =>
      rw [List.flatMap_cons, List.append_assoc]
      exact hends _ (hstarts b _ (hbs b List.mem_cons_self))
  induction as with
  | nil =>
    intro bs r s hbs hr hs h
    cases bs with
    | nil => exact ⟨rfl, h⟩
    | cons b bs =>
      rw [List.flatMap_nil, List.nil_append, List.flatMap_cons, List.append_assoc] at h
      exact absurd (h ▸ hstarts b _ (hbs b List.mem_cons_self)) hr.2
  | cons a as ih =>
    obtain ⟨⟨hproper, ha⟩, has⟩ := List.forall_mem_cons.1 has
    intro bs r s hbs hr hs h
    rw [List.flatMap_cons, List.append_assoc] at h
    cases bs with
    | nil =>
      rw [List.flatMap_nil, List.nil_append] at h
      exact absurd (h ▸ hstarts a _ hproper) hs.2
    | cons b bs =>
      obtain ⟨hb, htail⟩ := List.forall_mem_cons.1 hbs
      rw [List.flatMap_cons, List.append_assoc] at h
      obtain ⟨rfl, hafter⟩ :=
        ha hb (hrest as (fun a ha => (has a ha).1) r hr.1) (hrest bs htail s hs.1) h
      obtain ⟨rfl, heq⟩ := ih has htail hr hs hafter
      exact ⟨rfl, heq⟩

theorem intercalate_cons (sep item : List Char) (items : List (List Char)) :
    sep.intercalate (item :: items) = item ++ items.flatMap (sep ++ ·) := by
  induction items generalizing item with
  | nil => simp
  | cons next items ih =>
    rw [List.intercalate_cons_cons, ih, List.flatMap_cons, List.append_assoc, List.append_assoc]

theorem intercalate_map_cons (sep : List Char) (a : α) (as : List α) :
    sep.intercalate ((a :: as).map write) = write a ++ as.flatMap (sep ++ write ·) := by
  rw [List.map_cons, intercalate_cons, List.flatMap_map]

/-- Items with a separator between them, at least one of them, up to where the separator does not
begin. -/
theorem intercalate_append_inj {sep : List Char} (hsep : ∀ r, ends (sep ++ r)) {a b : α}
    {as bs : List α} (has : ∀ x ∈ a :: as, proper x ∧ Determined write proper ends x)
    (hbs : ∀ x ∈ b :: bs, proper x) (hr : ends r ∧ ¬sep <+: r) (hs : ends s ∧ ¬sep <+: s)
    (h : sep.intercalate ((a :: as).map write) ++ r = sep.intercalate ((b :: bs).map write) ++ s) :
    a :: as = b :: bs ∧ r = s := by
  obtain ⟨⟨-, ha⟩, has⟩ := List.forall_mem_cons.1 has
  obtain ⟨hb, htail⟩ := List.forall_mem_cons.1 hbs
  have hrest : ∀ (items : List α) (t : List Char), ends t →
      ends (items.flatMap (sep ++ write ·) ++ t) := by
    intro items t ht
    cases items with
    | nil => exact ht
    | cons item items =>
      rw [List.flatMap_cons, List.append_assoc, List.append_assoc]
      exact hsep _
  -- Each item after the first one is written with the separator before it.
  have hfurther : ∀ item ∈ as, proper item ∧ Determined (sep ++ write ·) proper ends item := by
    intro item hitem
    refine ⟨(has item hitem).1, fun b r s hb hr hs h => ?_⟩
    rw [List.append_assoc, List.append_assoc] at h
    exact (has item hitem).2 hb hr hs (List.append_cancel_left h)
  have hstarts : ∀ item r, proper item → sep <+: sep ++ write item ++ r := by
    intro item r _
    rw [List.append_assoc]
    exact List.prefix_append _ _
  have hends : ∀ r, sep <+: r → ends r := by
    rintro _ ⟨r, rfl⟩
    exact hsep r
  simp only [intercalate_map_cons, List.append_assoc] at h
  obtain ⟨rfl, hafter⟩ := ha hb (hrest as r hr.1) (hrest bs s hs.1) h
  obtain ⟨rfl, heq⟩ := determined_flatMap hstarts hends hfurther htail hr hs hafter
  exact ⟨rfl, heq⟩

/-- Items with a separator between them are determined up to where neither the separator nor an item
begins. -/
theorem determined_intercalate {sep : List Char} (hsep : ∀ r, ends (sep ++ r))
    {as : List α} (has : ∀ a ∈ as, proper a ∧ Determined write proper ends a) :
    Determined (fun as => sep.intercalate (as.map write)) (∀ b ∈ ·, proper b)
      (fun r => ends r ∧ ¬sep <+: r ∧ ∀ b s, proper b → r ≠ write b ++ s) as := by
  intro bs r s hbs hr hs h
  cases as with
  | nil =>
    cases bs with
    | nil => simpa using h
    | cons b bs =>
      have hb := hbs b List.mem_cons_self
      simp only [intercalate_map_cons, List.map_nil, List.append_assoc] at h
      exact absurd h (hr.2.2 b _ hb)
  | cons a as =>
    cases bs with
    | nil =>
      have hproper := (has a List.mem_cons_self).1
      simp only [intercalate_map_cons, List.map_nil, List.append_assoc] at h
      exact absurd h.symm (hs.2.2 a _ hproper)
    | cons b bs =>
      exact intercalate_append_inj hsep has hbs ⟨hr.1, hr.2.1⟩ ⟨hs.1, hs.2.1⟩ h

/-- Items before a closing character, which neither the separator nor an item begins with. -/
theorem close_append_inj {first close : Char} {more : List Char} (hne : first ≠ close)
    (hfirst : ∀ r, ends (first :: r)) (hclose : ∀ r, ends (close :: r))
    (hopen : ∀ b r s, proper b → write b ++ r ≠ close :: s) {as bs : List α}
    (has : ∀ a ∈ as, proper a ∧ Determined write proper ends a) (hbs : ∀ b ∈ bs, proper b)
    (h : (first :: more).intercalate (as.map write) ++ close :: r =
      (first :: more).intercalate (bs.map write) ++ close :: s) : as = bs ∧ r = s := by
  have hend : ∀ t, ends (close :: t) ∧ ¬(first :: more) <+: close :: t ∧
      ∀ b s, proper b → close :: t ≠ write b ++ s := fun t =>
    ⟨hclose t, by simp [hne], fun b s hb => (hopen b s t hb).symm⟩
  obtain ⟨heq, hrest⟩ := determined_intercalate (fun _ => hfirst _) has hbs (hend r) (hend s) h
  exact ⟨heq, (List.cons.inj hrest).2⟩

end Wiring.Text
