namespace RootedRun.Text.Hex

def digit (n : Nat) : Char :=
  if n < 10 then Char.ofNat (n + '0'.toNat) else Char.ofNat (n - 10 + 'a'.toNat)

def value? (c : Char) : Option Nat :=
  if '0' ≤ c ∧ c ≤ '9' then some (c.toNat - '0'.toNat)
  else if 'a' ≤ c ∧ c ≤ 'f' then some (c.toNat - 'a'.toNat + 10)
  else if 'A' ≤ c ∧ c ≤ 'F' then some (c.toNat - 'A'.toNat + 10)
  else none

def isDigit (c : Char) : Bool := (value? c).isSome

def digits (n : Nat) : List Char :=
  if n < 16 then [digit n] else digits (n / 16) ++ [digit (n % 16)]
termination_by n

def readOnto (acc : Nat) : List Char → Option Nat
  | [] => some acc
  | c :: cs => (value? c).bind fun d => readOnto (acc * 16 + d) cs

def read? : List Char → Option Nat
  | [] => none
  | c :: cs => readOnto 0 (c :: cs)

theorem value?_digit {n : Nat} (h : n < 16) : value? (digit n) = some n :=
  (by decide : ∀ m : Fin 16, value? (digit m) = some m.val) ⟨n, h⟩

theorem readOnto_append (acc : Nat) (cs ds : List Char) :
    readOnto acc (cs ++ ds) = (readOnto acc cs).bind (readOnto · ds) := by
  induction cs generalizing acc with
  | nil => rfl
  | cons c cs ih => cases h : value? c <;> simp [readOnto, h, ih]

theorem readOnto_zero_digits (n : Nat) : readOnto 0 (digits n) = some n := by
  fun_induction digits n with
  | case1 n h => simp [readOnto, value?_digit h]
  | case2 n h ih =>
    simp only [readOnto_append, ih, Option.bind_some, readOnto,
      value?_digit (Nat.mod_lt n (by omega : 16 > 0))]
    congr 1; omega

theorem digits_ne_nil (n : Nat) : digits n ≠ [] := by
  rw [digits]; split <;> simp

@[simp] theorem read?_digits (n : Nat) : read? (digits n) = some n := by
  have h := readOnto_zero_digits n
  cases hd : digits n with
  | nil => exact absurd hd (digits_ne_nil n)
  | cons c cs => rwa [hd] at h

theorem isDigit_of_mem_digits {n : Nat} {c : Char} (h : c ∈ digits n) : isDigit c := by
  fun_induction digits n with
  | case1 n hn => simp_all [isDigit, value?_digit hn]
  | case2 n hn ih =>
    rcases List.mem_append.1 h with h | h
    · exact ih h
    · simp_all [isDigit, value?_digit (Nat.mod_lt n (by omega : 16 > 0))]

end RootedRun.Text.Hex
