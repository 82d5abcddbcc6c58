import Mathlib.Tactic.SplitIfs

namespace RootedRun.Text

def IsTail (b : UInt8) : Prop := 0x80 ≤ b ∧ b < 0xc0

/-- The bytes of one character. A character is written no longer than it needs to be, the numbers
from d800 to dfff are no characters, and neither are those above 10ffff. -/
def IsSequence : List UInt8 → Prop
  | [a] => a < 0x80
  | [a, b] => 0xc2 ≤ a ∧ a < 0xe0 ∧ IsTail b
  | [a, b, c] =>
    0xe0 ≤ a ∧ a < 0xf0 ∧ IsTail b ∧ IsTail c ∧ (a = 0xe0 → 0xa0 ≤ b) ∧ (a = 0xed → b < 0xa0)
  | [a, b, c, d] =>
    0xf0 ≤ a ∧ a < 0xf5 ∧ IsTail b ∧ IsTail c ∧ IsTail d ∧ (a = 0xf0 → 0x90 ≤ b) ∧
      (a = 0xf4 → b < 0x90)
  | _ => False

inductive WellFormed : List UInt8 → Prop
  | nil : WellFormed []
  | append {p rest : List UInt8} : IsSequence p → WellFormed rest → WellFormed (p ++ rest)

section Rows

variable {a b c d : UInt8}

theorem isTail_iff : IsTail b ↔ 128 ≤ b.toNat ∧ b.toNat < 192 := Iff.rfl

theorem isSequence_one : IsSequence [a] ↔ a.toNat < 128 := Iff.rfl

theorem isSequence_two : IsSequence [a, b] ↔ 194 ≤ a.toNat ∧ a.toNat < 224 ∧ IsTail b := Iff.rfl

theorem isSequence_three :
    IsSequence [a, b, c] ↔ 224 ≤ a.toNat ∧ a.toNat < 240 ∧ IsTail b ∧ IsTail c ∧
      (a.toNat = 224 → 160 ≤ b.toNat) ∧ (a.toNat = 237 → b.toNat < 160) := by
  simp only [IsSequence, ← UInt8.toNat_inj]
  exact Iff.rfl

theorem isSequence_four :
    IsSequence [a, b, c, d] ↔ 240 ≤ a.toNat ∧ a.toNat < 245 ∧ IsTail b ∧ IsTail c ∧ IsTail d ∧
      (a.toNat = 240 → 144 ≤ b.toNat) ∧ (a.toNat = 244 → b.toNat < 144) := by
  simp only [IsSequence, ← UInt8.toNat_inj]
  exact Iff.rfl

end Rows

theorem isSequence_utf8EncodeChar (c : Char) : IsSequence (String.utf8EncodeChar c) := by
  have hvalid : c.val.toNat < 0xd800 ∨ 0xdfff < c.val.toNat ∧ c.val.toNat < 0x110000 := c.valid
  unfold String.utf8EncodeChar
  generalize c.val.toNat = v at hvalid ⊢
  dsimp only
  split_ifs
  · simp only [isSequence_one, UInt8.toNat_ofNat']
    omega
  · simp only [isSequence_two, isTail_iff, UInt8.toNat_ofNat']
    omega
  · simp only [isSequence_three, isTail_iff, UInt8.toNat_ofNat']
    omega
  · simp only [isSequence_four, isTail_iff, UInt8.toNat_ofNat']
    omega

theorem exists_char {v : Nat} (h : v.isValidChar) : ∃ c : Char, c.val.toNat = v :=
  ⟨Char.ofNat v, by rw [Char.ofNat, dif_pos h]; rfl⟩

theorem exists_utf8EncodeChar_eq {bs : List UInt8} (h : IsSequence bs) :
    ∃ c : Char, String.utf8EncodeChar c = bs := by
  match bs, h with
  | [a], h =>
    rw [isSequence_one] at h
    obtain ⟨x, hx⟩ := exists_char (v := a.toNat) (.inl (by omega))
    refine ⟨x, ?_⟩
    simp only [String.utf8EncodeChar, hx, if_pos (show a.toNat ≤ 0x7f by omega),
      UInt8.ofNat_toNat]
  | [a, b], h =>
    rw [isSequence_two, isTail_iff] at h
    obtain ⟨x, hx⟩ :=
      exists_char (v := (a.toNat - 192) * 64 + (b.toNat - 128)) (.inl (by omega))
    refine ⟨x, ?_⟩
    simp only [String.utf8EncodeChar, hx]
    rw [if_neg (by omega), if_pos (by omega)]
    simp only [List.cons.injEq, ← UInt8.toNat_inj, UInt8.toNat_ofNat', and_true]
    omega
  | [a, b, c], h =>
    simp only [isSequence_three, isTail_iff] at h
    obtain ⟨x, hx⟩ :=
      exists_char (v := (a.toNat - 224) * 4096 + (b.toNat - 128) * 64 + (c.toNat - 128)) (by
        unfold Nat.isValidChar
        omega)
    refine ⟨x, ?_⟩
    simp only [String.utf8EncodeChar, hx]
    rw [if_neg (by omega), if_neg (by omega), if_pos (by omega)]
    simp only [List.cons.injEq, ← UInt8.toNat_inj, UInt8.toNat_ofNat', and_true]
    omega
  | [a, b, c, d], h =>
    simp only [isSequence_four, isTail_iff] at h
    obtain ⟨x, hx⟩ :=
      exists_char (v := (a.toNat - 240) * 262144 + (b.toNat - 128) * 4096
        + (c.toNat - 128) * 64 + (d.toNat - 128)) (by
        unfold Nat.isValidChar
        omega)
    refine ⟨x, ?_⟩
    simp only [String.utf8EncodeChar, hx]
    rw [if_neg (by omega), if_neg (by omega), if_neg (by omega)]
    simp only [List.cons.injEq, ← UInt8.toNat_inj, UInt8.toNat_ofNat', and_true]
    omega

theorem isSequence_iff {bs : List UInt8} :
    IsSequence bs ↔ ∃ c : Char, String.utf8EncodeChar c = bs := by
  refine ⟨exists_utf8EncodeChar_eq, ?_⟩
  rintro ⟨c, rfl⟩
  exact isSequence_utf8EncodeChar c

theorem wellFormed_iff {bs : List UInt8} :
    WellFormed bs ↔ ∃ cs : List Char, cs.flatMap String.utf8EncodeChar = bs := by
  constructor
  · intro h
    induction h with
    | nil => exact ⟨[], rfl⟩
    | append hp _ ih =>
      obtain ⟨c, rfl⟩ := isSequence_iff.1 hp
      obtain ⟨cs, rfl⟩ := ih
      exact ⟨c :: cs, rfl⟩
  · rintro ⟨cs, rfl⟩
    induction cs with
    | nil => exact .nil
    | cons c cs ih => exact .append (isSequence_utf8EncodeChar c) ih

theorem wellFormed_iff_isValidUTF8 {bytes : ByteArray} :
    WellFormed bytes.data.toList ↔ bytes.IsValidUTF8 := by
  rw [wellFormed_iff]
  constructor
  · rintro ⟨cs, h⟩
    refine ⟨cs, ByteArray.ext ?_⟩
    rw [List.utf8Encode, h, List.data_toByteArray, Array.toArray_toList]
  · rintro ⟨cs, rfl⟩
    exact ⟨cs, by simp [List.utf8Encode]⟩

theorem wellFormed_iff_exists_toUTF8 {bytes : ByteArray} :
    WellFormed bytes.data.toList ↔ ∃ text : String, text.toUTF8 = bytes := by
  rw [wellFormed_iff_isValidUTF8]
  constructor
  · exact fun h => ⟨.ofByteArray bytes h, rfl⟩
  · rintro ⟨text, rfl⟩
    exact text.isValidUTF8

section Prefix

def width (a : UInt8) : Nat :=
  if a.toNat < 128 then 1 else if a.toNat < 224 then 2 else if a.toNat < 240 then 3 else 4

theorem length_eq_width {a : UInt8} {p : List UInt8} (h : IsSequence (a :: p)) :
    (a :: p).length = width a := by
  unfold width
  match p, h with
  | [], h =>
    rw [isSequence_one] at h
    rw [if_pos h]
    rfl
  | [_], h =>
    rw [isSequence_two] at h
    rw [if_neg (by omega), if_pos (by omega)]
    rfl
  | [_, _], h =>
    rw [isSequence_three] at h
    rw [if_neg (by omega), if_neg (by omega), if_pos (by omega)]
    rfl
  | [_, _, _], h =>
    rw [isSequence_four] at h
    rw [if_neg (by omega), if_neg (by omega), if_neg (by omega)]
    rfl

theorem IsSequence.ne_nil {p : List UInt8} (h : IsSequence p) : p ≠ [] := by
  rintro rfl
  exact h

theorem append_inj_of_isSequence {p q xs ys : List UInt8} (hp : IsSequence p) (hq : IsSequence q)
    (h : p ++ xs = q ++ ys) : p = q ∧ xs = ys := by
  obtain ⟨a, p, rfl⟩ := List.exists_cons_of_ne_nil hp.ne_nil
  obtain ⟨b, q, rfl⟩ := List.exists_cons_of_ne_nil hq.ne_nil
  obtain rfl : a = b := List.head_eq_of_cons_eq h
  exact List.append_inj h ((length_eq_width hp).trans (length_eq_width hq).symm)

theorem wellFormed_append_iff {p rest : List UInt8} (hp : IsSequence p) :
    WellFormed (p ++ rest) ↔ WellFormed rest := by
  refine ⟨fun h => ?_, .append hp⟩
  generalize hbs : p ++ rest = bs at h
  cases h with
  | nil => exact absurd (List.append_eq_nil_iff.1 hbs).1 hp.ne_nil
  | append hq hrest =>
    obtain ⟨-, rfl⟩ := append_inj_of_isSequence hp hq hbs
    exact hrest

theorem wellFormed_toUTF8_append_iff {text : String} {rest : ByteArray} :
    WellFormed (text.toUTF8 ++ rest).data.toList ↔ WellFormed rest.data.toList := by
  obtain ⟨cs, hcs⟩ := text.isValidUTF8
  rw [String.toUTF8_eq_toByteArray, hcs, ByteArray.toList_data_append, List.utf8Encode,
    List.toList_data_toByteArray]
  clear hcs
  induction cs with
  | nil => rfl
  | cons c cs ih =>
    rw [List.flatMap_cons, List.append_assoc,
      wellFormed_append_iff (isSequence_utf8EncodeChar c), ih]

end Prefix

end RootedRun.Text
