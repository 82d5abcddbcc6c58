import RootedRun.Text.Literal
import RootedRun.Text.Unprintable

namespace RootedRun

namespace Text

/-- The controls of Unicode: those of ASCII, and those next to it. -/
def IsControl (c : Char) : Prop := c.toNat < 0x20 ∨ 0x7f ≤ c.toNat ∧ c.toNat < 0xa0

/-- A line has to end here. All but the two separators are controls. -/
def EndsLine (c : Char) : Prop :=
  0xa ≤ c.toNat ∧ c.toNat ≤ 0xd ∨ c.toNat = 0x85 ∨ 0x2028 ≤ c.toNat ∧ c.toNat ≤ 0x2029

def IsPlain (c : Char) : Prop := 0x20 ≤ c.toNat ∧ c.toNat < 0x7f

instance (c : Char) : Decidable (IsControl c) := inferInstanceAs (Decidable (_ ∨ _))

instance (c : Char) : Decidable (EndsLine c) := inferInstanceAs (Decidable (_ ∨ _))

instance (c : Char) : Decidable (IsPlain c) := inferInstanceAs (Decidable (_ ∧ _))

theorem IsPlain.not_isControl {c : Char} (h : IsPlain c) : ¬ IsControl c := by
  unfold IsPlain at h
  unfold IsControl
  omega

theorem IsPlain.not_endsLine {c : Char} (h : IsPlain c) : ¬ EndsLine c := by
  unfold IsPlain at h
  unfold EndsLine
  omega

theorem unprintable_of_mem {c : Char} {lo hi : Nat} (hmem : (lo, hi) ∈ unprintableRanges)
    (hlo : lo ≤ c.toNat) (hhi : c.toNat ≤ hi) : unprintable c = true :=
  List.any_eq_true.2 ⟨(lo, hi), hmem, by simp [hlo, hhi]⟩

theorem unprintable_of_isControl {c : Char} (h : IsControl c) : unprintable c = true := by
  unfold IsControl at h
  rcases h with h | h
  · exact unprintable_of_mem (by decide +kernel : (0x0, 0x1f) ∈ _) (by omega) (by omega)
  · exact unprintable_of_mem (by decide +kernel : (0x7f, 0xa0) ∈ _) (by omega) (by omega)

theorem unprintable_of_endsLine {c : Char} (h : EndsLine c) : unprintable c = true := by
  unfold EndsLine at h
  rcases h with h | h | h
  · exact unprintable_of_isControl (.inl (by omega))
  · exact unprintable_of_isControl (.inr (by omega))
  · exact unprintable_of_mem (by decide +kernel : (0x2028, 0x202f) ∈ _) (by omega) (by omega)

theorem Hex.isPlain_of_isDigit {c : Char} (h : isDigit c) : IsPlain c := by
  have between {lo hi : Char} (hlo : IsPlain lo) (hhi : IsPlain hi) (hc : lo ≤ c ∧ c ≤ hi) :
      IsPlain c :=
    ⟨Nat.le_trans hlo.1 hc.1, Nat.lt_of_le_of_lt hc.2 hhi.2⟩
  unfold isDigit value? at h
  split at h
  · next hc => exact between (by decide) (by decide) hc
  split at h
  · next hc => exact between (by decide) (by decide) hc
  split at h
  · next hc => exact between (by decide) (by decide) hc
  · cases h

namespace Literal

/-! ### Where a quoted text ends -/

/-- No quote stands open: each backslash takes the character behind it along. -/
inductive Sealed : List Char → Prop
  | nil : Sealed []
  | plain : c ≠ '"' → c ≠ '\\' → Sealed cs → Sealed (c :: cs)
  | escaped : Sealed cs → Sealed ('\\' :: c :: cs)

theorem Sealed.append {cs ds : List Char} (hc : Sealed cs) (hd : Sealed ds) :
    Sealed (cs ++ ds) := by
  induction hc with
  | nil => exact hd
  | plain hquote hback _ ih => exact .plain hquote hback ih
  | escaped _ ih => exact .escaped ih

theorem sealed_of_forall {cs : List Char} (h : ∀ c ∈ cs, c ≠ '"' ∧ c ≠ '\\') : Sealed cs := by
  induction cs with
  | nil => exact .nil
  | cons c cs ih =>
    obtain ⟨hc, hcs⟩ := List.forall_mem_cons.1 h
    exact .plain hc.1 hc.2 (ih hcs)

theorem Sealed.append_quote_inj {cs ds r s : List Char} (hc : Sealed cs) (hd : Sealed ds)
    (h : cs ++ '"' :: r = ds ++ '"' :: s) : cs = ds ∧ r = s := by
  -- what a text begins with tells its form, so both are of one form
  induction hc generalizing ds with
  | nil =>
    cases hd with
    | nil => exact ⟨rfl, (List.cons.inj h).2⟩
    | plain hquote => exact absurd (List.cons.inj h).1.symm hquote
    | escaped => exact absurd (List.cons.inj h).1 (by decide)
  | plain hquote hback _ ih =>
    cases hd with
    | nil => exact absurd (List.cons.inj h).1 hquote
    | plain _ _ hd =>
      obtain ⟨rfl, htail⟩ := List.cons.inj h
      exact (ih hd htail).imp_left fun hcs => by rw [hcs]
    | escaped => exact absurd (List.cons.inj h).1 hback
  | escaped _ ih =>
    cases hd with
    | nil => exact absurd (List.cons.inj h).1 (by decide)
    | plain _ hback => exact absurd (List.cons.inj h).1.symm hback
    | escaped hd =>
      obtain ⟨rfl, htail⟩ := List.cons.inj (List.cons.inj h).2
      exact (ih hd htail).imp_left fun hcs => by rw [hcs]

/-! ### What quoting leaves of a text -/

variable {numbered : Char → Bool}

theorem isPlain_of_letter? {c l : Char} (h : letter? c = some l) : IsPlain l := by
  unfold letter? at h
  split at h <;> cases h <;> decide

theorem isPlain_of_mem_number {n : Nat} {d : Char} (h : d ∈ '\x7b' :: (Hex.digits n ++ ['\x7d'])) :
    IsPlain d ∧ d ≠ '"' ∧ d ≠ '\\' := by
  rcases List.mem_cons.1 h with rfl | h
  · decide
  rcases List.mem_append.1 h with h | h
  · have hdigit : Hex.isDigit d := Hex.isDigit_of_mem_digits h
    refine ⟨Hex.isPlain_of_isDigit hdigit, ?_, ?_⟩ <;> rintro rfl <;> revert hdigit <;> decide
  · rw [List.mem_singleton.1 h]
    decide

theorem sealed_encodeChar (c : Char) : Sealed (encodeChar numbered c) := by
  unfold encodeChar
  split
  · exact .escaped .nil
  · next hletter =>
    split
    · exact .escaped (sealed_of_forall fun d hd => (isPlain_of_mem_number hd).2)
    · have hquote : c ≠ '"' := by rintro rfl; cases hletter
      exact .plain hquote (ne_backslash_of_letter? hletter) .nil

theorem sealed_encodeBody (cs : List Char) : Sealed (encodeBody numbered cs) := by
  induction cs with
  | nil => exact .nil
  | cons c cs ih => exact (sealed_encodeChar c).append ih

theorem toList_encode_append (s rest : String) :
    (encode numbered s ++ rest).toList =
      '"' :: (encodeBody numbered s.toList ++ '"' :: rest.toList) := by
  simp [encode]

theorem encode_append_inj {numbered' : Char → Bool} {s s' rest rest' : String}
    (h : encode numbered s ++ rest = encode numbered' s' ++ rest') : s = s' ∧ rest = rest' := by
  have hlist := congrArg String.toList h
  rw [toList_encode_append, toList_encode_append] at hlist
  obtain ⟨hbody, hrest⟩ :=
    (sealed_encodeBody _).append_quote_inj (sealed_encodeBody _) (List.cons.inj hlist).2
  have hdecode := congrArg decodeBody hbody
  rw [decodeBody_encodeBody, decodeBody_encodeBody] at hdecode
  exact ⟨String.toList_inj.1 (Option.some.inj hdecode), String.toList_inj.1 hrest⟩

theorem mem_encodeChar {c d : Char} (h : d ∈ encodeChar numbered c) :
    IsPlain d ∨ d = c ∧ letter? c = none ∧ numbered c = false := by
  have hback : IsPlain '\\' := by decide
  unfold encodeChar at h
  split at h
  · next l hletter =>
    have hl : IsPlain l := isPlain_of_letter? hletter
    rcases List.mem_cons.1 h with rfl | h
    · exact .inl hback
    · exact .inl (List.mem_singleton.1 h ▸ hl)
  · next hletter =>
    split at h
    · rcases List.mem_cons.1 h with rfl | h
      · exact .inl hback
      rcases List.mem_cons.1 h with rfl | h
      · exact .inl (by decide)
      · exact .inl (isPlain_of_mem_number h).1
    · next hnumbered =>
      obtain rfl := List.mem_singleton.1 h
      exact .inr ⟨rfl, hletter, by simpa using hnumbered⟩

theorem mem_encode {s : String} {d : Char} (h : d ∈ (encode numbered s).toList) :
    IsPlain d ∨ d ∈ s.toList ∧ letter? d = none ∧ numbered d = false := by
  have hquote : IsPlain '"' := by decide
  rw [encode, String.toList_ofList] at h
  rcases List.mem_cons.1 h with rfl | h
  · exact .inl hquote
  rcases List.mem_append.1 h with h | h
  · obtain ⟨c, hc, hd⟩ := List.mem_flatMap.1 h
    refine (mem_encodeChar hd).imp_right ?_
    rintro ⟨rfl, hletter, hnumbered⟩
    exact ⟨hc, hletter, hnumbered⟩
  · obtain rfl := List.mem_singleton.1 h
    exact .inl hquote

end Literal

end Text

end RootedRun
