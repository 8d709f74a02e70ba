import Wiring.QualifiedName

/-!
# The order of bytes

Texts stand in the order of their UTF-8 bytes. Of two characters the lower one has the lower first
byte, or as many bytes as the other, with six bits in each byte after the first.

* `Text.bytes`, `Text.bytes_eq`: the bytes of a text, character by character;
* `Text.sextets`, `Text.encode_eq_sextets`: the bytes of a character;
* `Text.encode_append_lt`: two characters, before whatever follows;
* **`Text.bytes_lt_iff`**, `QualifiedName.lt_iff_bytes`: texts and names.
-/

namespace Wiring

namespace Text

/-! ## One character -/

/-- What is left of a number for its first byte if six bits of it stand in each further byte. -/
def lead : Nat → Nat → Nat
  | 0, n => n
  | further + 1, n => lead further (n / 64)

/-- A number in a first byte, to which a mark is added, and in further bytes. -/
def sextets (mark : Nat) : Nat → Nat → List UInt8
  | 0, n => [UInt8.ofNat (n + mark)]
  | further + 1, n => sextets mark further (n / 64) ++ [UInt8.ofNat (n % 64 + 128)]

/-- How many bytes follow the first byte of a character. -/
def furtherBytes (n : Nat) : Nat :=
  if n ≤ 127 then 0 else if n ≤ 2047 then 1 else if n ≤ 65535 then 2 else 3

/-- The mark of a first byte tells how many bytes follow it. -/
def leadMark : Nat → Nat
  | 0 => 0
  | 1 => 192
  | 2 => 224
  | _ => 240

theorem toNat_val_lt (c : Char) : c.val.toNat < 1114112 := by
  rcases c.valid with h | ⟨-, h⟩
  · exact Nat.lt_trans h (by decide)
  · exact h

theorem encode_eq_sextets (c : Char) :
    String.utf8EncodeChar c =
      sextets (leadMark (furtherBytes c.val.toNat)) (furtherBytes c.val.toNat) c.val.toNat := by
  have hbound := toNat_val_lt c
  unfold String.utf8EncodeChar furtherBytes
  generalize c.val.toNat = n at hbound
  dsimp only
  split
  · rfl
  split
  · have hlead : n / 64 % 32 = n / 64 := by omega
    rw [hlead]
    rfl
  split
  · have hlead : n / 4096 % 16 = n / 64 / 64 := by omega
    rw [hlead]
    rfl
  · have hlead : n / 262144 % 8 = n / 64 / 64 / 64 := by omega
    have hnext : n / 4096 % 64 = n / 64 / 64 % 64 := by omega
    rw [hlead, hnext]
    rfl

theorem sextets_eq_cons (mark further n : Nat) :
    ∃ rest, sextets mark further n = UInt8.ofNat (lead further n + mark) :: rest := by
  induction further generalizing n with
  | zero => exact ⟨[], rfl⟩
  | succ further ih =>
    obtain ⟨rest, hrest⟩ := ih (n / 64)
    exact ⟨rest ++ [UInt8.ofNat (n % 64 + 128)], by rw [sextets, hrest, lead, List.cons_append]⟩

theorem ofNat_cons_lt {m n : Nat} (h : m < n) (hn : n < 256) (r s : List UInt8) :
    UInt8.ofNat m :: r < UInt8.ofNat n :: s := by
  refine List.cons_lt_cons_iff.2 (.inl (UInt8.lt_iff_toNat_lt.2 ?_))
  rwa [UInt8.toNat_ofNat_of_lt' (Nat.lt_trans h hn), UInt8.toNat_ofNat_of_lt' hn]

/-- Of two numbers in equally many bytes the lower one has the lower byte where they differ
first. -/
theorem sextets_append_lt {mark further m n : Nat} (h : m < n) (hn : lead further n + mark < 256)
    (r s : List UInt8) : sextets mark further m ++ r < sextets mark further n ++ s := by
  induction further generalizing m n r s with
  | zero => exact ofNat_cons_lt (Nat.add_lt_add_right h mark) hn r s
  | succ further ih =>
    rw [sextets, sextets, List.append_assoc, List.append_assoc]
    have hdigits : m / 64 < n / 64 ∨ m / 64 = n / 64 ∧ m % 64 < n % 64 := by omega
    rcases hdigits with hless | ⟨heq, hless⟩
    · exact ih hless hn _ _
    · rw [heq]
      exact List.append_left_lt (ofNat_cons_lt (by omega) (by omega) r s)

/-- The first byte of a character. -/
def leadByte (n : Nat) : Nat := lead (furtherBytes n) n + leadMark (furtherBytes n)

theorem leadByte_cases (n : Nat) :
    (n ≤ 127 ∧ furtherBytes n = 0 ∧ leadByte n = n) ∨
    (127 < n ∧ n ≤ 2047 ∧ furtherBytes n = 1 ∧ leadByte n = n / 64 + 192) ∨
    (2047 < n ∧ n ≤ 65535 ∧ furtherBytes n = 2 ∧ leadByte n = n / 64 / 64 + 224) ∨
    (65535 < n ∧ furtherBytes n = 3 ∧ leadByte n = n / 64 / 64 / 64 + 240) := by
  unfold leadByte furtherBytes
  split
  · exact .inl ⟨‹_›, rfl, rfl⟩
  split
  · exact .inr (.inl ⟨by omega, ‹_›, rfl, rfl⟩)
  split
  · exact .inr (.inr (.inl ⟨by omega, ‹_›, rfl, rfl⟩))
  · exact .inr (.inr (.inr ⟨by omega, rfl, rfl⟩))

theorem leadByte_lt {n : Nat} (h : n < 1114112) : leadByte n < 256 := by
  have hcases := leadByte_cases n
  omega

/-- A higher number with another number of bytes has a higher first byte. -/
theorem leadByte_lt_of_ne {m n : Nat} (h : m < n) (hne : furtherBytes m ≠ furtherBytes n) :
    leadByte m < leadByte n := by
  have hm := leadByte_cases m
  have hn := leadByte_cases n
  omega

/-- A lower character has lower bytes, whatever follows. -/
theorem encode_append_lt {c d : Char} (h : c < d) (r s : List UInt8) :
    String.utf8EncodeChar c ++ r < String.utf8EncodeChar d ++ s := by
  have hval : c.val.toNat < d.val.toNat := UInt32.lt_iff_toNat_lt.1 (Char.lt_def.1 h)
  have hbound := leadByte_lt (toNat_val_lt d)
  rw [encode_eq_sextets, encode_eq_sextets]
  by_cases hsame : furtherBytes c.val.toNat = furtherBytes d.val.toNat
  · rw [hsame]
    exact sextets_append_lt hval hbound r s
  · obtain ⟨more, hmore⟩ := sextets_eq_cons (leadMark (furtherBytes c.val.toNat)) _ c.val.toNat
    obtain ⟨more', hmore'⟩ := sextets_eq_cons (leadMark (furtherBytes d.val.toNat)) _ d.val.toNat
    rw [hmore, hmore']
    exact ofNat_cons_lt (leadByte_lt_of_ne hval hsame) hbound _ _

/-! ## Texts -/

/-- The UTF-8 bytes of a text. -/
def bytes (s : String) : List UInt8 := s.toUTF8.data.toList

theorem bytes_eq (s : String) : bytes s = s.toList.flatMap String.utf8EncodeChar := by
  have hencode : s.toUTF8 = s.toList.utf8Encode := by
    rw [String.toUTF8_eq_toByteArray, ← String.toByteArray_ofList, String.ofList_toList]
  rw [bytes, hencode, List.utf8Encode, List.data_toByteArray]

theorem flatMap_encode_lt {cs ds : List Char} (h : cs < ds) :
    cs.flatMap String.utf8EncodeChar < ds.flatMap String.utf8EncodeChar := by
  induction h with
  | @nil d ds =>
    obtain ⟨rest, hrest⟩ := sextets_eq_cons (leadMark (furtherBytes d.val.toNat)) _ d.val.toNat
    rw [List.flatMap_cons, encode_eq_sextets, hrest]
    exact List.nil_lt_cons _ _
  | rel hless => exact encode_append_lt hless _ _
  | cons _ ih => exact List.append_left_lt ih

/-- **Texts stand in the order of their bytes.** -/
theorem bytes_lt_iff {s t : String} : bytes s < bytes t ↔ s < t := by
  have hmono : ∀ {s t : String}, s < t → bytes s < bytes t := fun h => by
    rw [bytes_eq, bytes_eq]
    exact flatMap_encode_lt (String.lt_iff.1 h)
  refine ⟨fun h => ?_, hmono⟩
  by_cases hst : s < t
  · exact hst
  by_cases hts : t < s
  · exact absurd (hmono hts) (List.lt_asymm h)
  · have heq : s = t := String.le_antisymm (String.not_lt.1 hts) (String.not_lt.1 hst)
    exact absurd (heq ▸ h) (List.lt_irrefl _)

end Text

namespace QualifiedName

/-- The bytes of a name. -/
def bytes (n : QualifiedName) : List UInt8 := Text.bytes n.text

/-- **Names stand in the order of their bytes.** -/
theorem lt_iff_bytes {a b : QualifiedName} : a < b ↔ a.bytes < b.bytes := Text.bytes_lt_iff.symm

end QualifiedName

end Wiring
