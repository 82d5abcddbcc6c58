import RootedRun.Text.Hex

namespace RootedRun.Text.Literal

def letter? : Char → Option Char
  | '"' => some '"'
  | '\\' => some '\\'
  | '\x00' => some '0'
  | '\t' => some 't'
  | '\r' => some 'r'
  | '\n' => some 'n'
  | _ => none

def ofLetter? : Char → Option Char
  | '"' => some '"'
  | '\\' => some '\\'
  | '0' => some '\x00'
  | 't' => some '\t'
  | 'r' => some '\r'
  | 'n' => some '\n'
  | _ => none

/-- `numbered` holds the characters that are written by number where no letter stands for them. -/
def encodeChar (numbered : Char → Bool) (c : Char) : List Char :=
  match letter? c with
  | some l => ['\\', l]
  | none =>
    if numbered c then '\\' :: 'u' :: '\x7b' :: (Hex.digits c.toNat ++ ['\x7d']) else [c]

def encodeBody (numbered : Char → Bool) (cs : List Char) : List Char :=
  cs.flatMap (encodeChar numbered)

def encode (numbered : Char → Bool) (s : String) : String :=
  String.ofList ('"' :: (encodeBody numbered s.toList ++ ['"']))

def scalar? (n : Nat) : Option Char :=
  if h : n.isValidChar then some (Char.ofNatAux n h) else none

theorem length_lt_of_dropWhile {p : Char → Bool} {c : Char} {r r' : List Char}
    (h : r.dropWhile p = c :: r') : r'.length < r.length := by
  have := (List.dropWhile_sublist p (l := r)).length_le
  simp only [h, List.length_cons] at this
  omega

def decodeBody : List Char → Option (List Char)
  | [] => some []
  | '\\' :: 'u' :: '\x7b' :: r =>
    match h : r.dropWhile Hex.isDigit with
    | '\x7d' :: r' => do
      have := length_lt_of_dropWhile h
      let c ← (Hex.read? (r.takeWhile Hex.isDigit)).bind scalar?
      return c :: (← decodeBody r')
    | _ => none
  | '\\' :: l :: r => do
    let c ← ofLetter? l
    return c :: (← decodeBody r)
  | ['\\'] => none
  | c :: r => (decodeBody r).map (c :: ·)
termination_by cs => cs.length
decreasing_by
  all_goals simp only [List.length_cons]; omega

def unquote? : List Char → Option (List Char)
  | '"' :: r => if r.getLast? = some '"' then some r.dropLast else none
  | _ => none

def decode (s : String) : Option String :=
  ((unquote? s.toList).bind decodeBody).map String.ofList

theorem letter?_eq_some {c l : Char} (h : letter? c = some l) :
    l ≠ 'u' ∧ ofLetter? l = some c := by
  unfold letter? at h
  split at h <;> simp_all <;> subst h <;> decide

theorem ne_backslash_of_letter? {c : Char} (h : letter? c = none) : c ≠ '\\' := by
  rintro rfl; simp [letter?] at h

@[simp] theorem scalar?_toNat (c : Char) : scalar? c.toNat = some c := by
  exact (dif_pos c.valid).trans rfl

theorem decodeBody_cons {c : Char} (h : c ≠ '\\') (r : List Char) :
    decodeBody (c :: r) = (decodeBody r).map (c :: ·) := by
  rw [decodeBody] <;> simp_all

theorem decodeBody_letter {l c : Char} (hu : l ≠ 'u') (h : ofLetter? l = some c) (r : List Char) :
    decodeBody ('\\' :: l :: r) = (decodeBody r).map (c :: ·) := by
  rw [decodeBody]
  · cases decodeBody r <;> simp [h]
  · simp_all

theorem decodeBody_number (c : Char) (r : List Char) :
    decodeBody ('\\' :: 'u' :: '\x7b' :: (Hex.digits c.toNat ++ '\x7d' :: r)) =
      (decodeBody r).map (c :: ·) := by
  have hall : ∀ d ∈ Hex.digits c.toNat, Hex.isDigit d := fun d hd => Hex.isDigit_of_mem_digits hd
  have hdrop : (Hex.digits c.toNat ++ '\x7d' :: r).dropWhile Hex.isDigit = '\x7d' :: r := by
    rw [List.dropWhile_append_of_pos hall, List.dropWhile_cons_of_neg (by decide)]
  have htake : (Hex.digits c.toNat ++ '\x7d' :: r).takeWhile Hex.isDigit = Hex.digits c.toNat := by
    rw [List.takeWhile_append_of_pos hall, List.takeWhile_cons_of_neg (by decide),
      List.append_nil]
  rw [decodeBody]
  split
  · next r' h =>
    obtain rfl : r = r' := by simpa [hdrop] using h
    rw [htake]
    cases decodeBody r <;> simp
  · next h => exact absurd hdrop (h r)

theorem decodeBody_encodeChar_append (numbered : Char → Bool) (c : Char) (r : List Char) :
    decodeBody (encodeChar numbered c ++ r) = (decodeBody r).map (c :: ·) := by
  cases h : letter? c with
  | some l =>
    have ⟨hu, hl⟩ := letter?_eq_some h
    simpa [encodeChar, h] using decodeBody_letter hu hl r
  | none =>
    by_cases hn : numbered c
    · simpa [encodeChar, h, hn] using decodeBody_number c r
    · simpa [encodeChar, h, hn] using decodeBody_cons (ne_backslash_of_letter? h) r

theorem decodeBody_encodeBody (numbered : Char → Bool) (cs : List Char) :
    decodeBody (encodeBody numbered cs) = some cs := by
  induction cs with
  | nil => simp [encodeBody, decodeBody]
  | cons c cs ih =>
    rw [encodeBody, List.flatMap_cons, decodeBody_encodeChar_append]
    rw [encodeBody] at ih
    simp [ih]

theorem decode_encode (numbered : Char → Bool) (s : String) :
    decode (encode numbered s) = some s := by
  simp [decode, encode, unquote?, decodeBody_encodeBody]

end RootedRun.Text.Literal
