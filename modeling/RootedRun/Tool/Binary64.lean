import RootedRun.Tool.Numeral

namespace RootedRun.Tool

/-- A finite number is `m * 2 ^ e`. -/
inductive Binary64
  | nan (negative : Bool)
  | infinite (negative : Bool)
  | finite (negative : Bool) (m : Nat) (e : Int)

namespace Binary64

def roundDiv (a b : Nat) : Nat :=
  let q := a / b
  let r := 2 * (a % b)
  if r > b ∨ (r = b ∧ q % 2 = 1) then q + 1 else q

def scale (base : Nat) (a b : Nat) (e : Int) : Nat × Nat :=
  (a * Nat.pow base e.toNat, b * Nat.pow base (-e).toNat)

def settleLog (base : Nat) (a b : Nat) : (fuel : Nat) → (guess : Int) → Int
  | 0, g => g
  | fuel + 1, g =>
    let (x, y) := scale base a b (-g)
    if x < y then settleLog base a b fuel (g - 1)
    else if y * base ≤ x then settleLog base a b fuel (g + 1) else g

def log2 (a b : Nat) : Int := settleLog 2 a b 4 ((a.log2 : Int) - b.log2)

def log10 (a b : Nat) : Int :=
  settleLog 10 a b 4 (((Nat.toDigits 10 a).length : Int) - (Nat.toDigits 10 b).length)

def ofRatio (negative : Bool) (a b : Nat) : Binary64 × Bool :=
  if a = 0 then (finite negative 0 0, false)
  else
    let e := max (log2 a b - 52) (-1074)
    let (x, y) := scale 2 a b (-e)
    let m := roundDiv x y
    if e > 971 ∨ (e = 971 ∧ m ≥ 1 <<< 53) then (infinite negative, true)
    else if m = 1 <<< 53 then (finite negative (1 <<< 52) (e + 1), false)
    else (finite negative m e, m < 1 <<< 52 && m * y ≠ x)

def fraction (isDigit : Char → Bool) (cs : List Char) : List Char × List Char × List Char :=
  let rest := cs.dropWhile isDigit
  match rest with
  | '.' :: r =>
    let parts := r.takeWhile isDigit
    if cs.takeWhile isDigit = [] ∧ parts = [] then ([], [], cs)
    else (cs.takeWhile isDigit, parts, r.dropWhile isDigit)
  | _ => (cs.takeWhile isDigit, [], rest)

def exponent (letter : Char) (cs : List Char) : Int × List Char :=
  match cs with
  | [] => (0, [])
  | c :: r =>
    if c.toLower ≠ letter then (0, cs)
    else
      let (negative, ds) := match r with
        | '-' :: ds => (true, ds)
        | '+' :: ds => (false, ds)
        | ds => (false, ds)
      if (ds.head?.map Char.isDigit).getD false then
        (Numeral.withSign negative (Numeral.value 10 (ds.takeWhile Char.isDigit)),
          ds.dropWhile Char.isDigit)
      else (0, cs)

def farthest : Int := 2000

def decimal (negative : Bool) (whole parts : List Char) (e : Int) : Binary64 × Bool :=
  let n := Numeral.value 10 (whole ++ parts)
  let e := e - parts.length
  let size := e + (Nat.toDigits 10 n).length
  if n = 0 then (finite negative 0 0, false)
  else if size > farthest then (infinite negative, true)
  else if size < -farthest then (finite negative 0 0, true)
  else
    let (a, b) := scale 10 n 1 e
    ofRatio negative a b

def hexadecimal (negative : Bool) (whole parts : List Char) (e : Int) : Binary64 × Bool :=
  let n := Numeral.value 16 (whole ++ parts)
  let e := max (-10000) (min 10000 e) - 4 * parts.length
  let (a, b) := scale 2 n 1 e
  ofRatio negative a b

def afterWord? (word : String) (cs : List Char) : Option (List Char) :=
  if (cs.take word.length).map Char.toLower = word.toList then some (cs.drop word.length)
  else none

def read? (cs : List Char) : Option (Binary64 × Bool × List Char) :=
  let (negative, cs) := Numeral.signed cs
  match (afterWord? "infinity" cs).or (afterWord? "inf" cs), afterWord? "nan" cs with
  | some r, _ => some (infinite negative, false, r)
  | none, some r => some (nan negative, false, r)
  | none, none =>
    let hex := match cs with
      | '0' :: x :: r =>
        let (whole, parts, rest) := fraction Text.Hex.isDigit r
        if x.toLower = 'x' ∧ ¬ (whole = [] ∧ parts = []) then
          let (e, rest) := exponent 'p' rest
          let (v, far) := hexadecimal negative whole parts e
          some (v, far, rest)
        else none
      | _ => none
    hex.or
      (let (whole, parts, rest) := fraction Char.isDigit cs
      if whole = [] ∧ parts = [] then none
      else
        let (e, rest) := exponent 'e' rest
        let (v, far) := decimal negative whole parts e
        some (v, far, rest))

/-! ### Writing -/

def isNegative : Binary64 → Bool
  | nan n | infinite n | finite n _ _ => n

def ratio (m : Nat) (e : Int) : Nat × Nat := scale 2 m 1 e

def padLeft (n : Nat) (ds : List Char) : List Char := List.replicate (n - ds.length) '0' ++ ds

def pointed (keepPoint : Bool) (places : Nat) (ds : List Char) : List Char :=
  let ds := padLeft (places + 1) ds
  let whole := ds.take (ds.length - places)
  if places = 0 then (if keepPoint then whole ++ ['.'] else whole)
  else whole ++ '.' :: ds.drop (ds.length - places)

def fixed (keepPoint : Bool) (places m : Nat) (e : Int) : List Char :=
  let (a, b) := ratio m e
  pointed keepPoint places (Nat.toDigits 10 (roundDiv (a * Nat.pow 10 places) b))

def leading (places m : Nat) (e : Int) : List Char × Int :=
  if m = 0 then (List.replicate (places + 1) '0', 0)
  else
    let (a, b) := ratio m e
    let x := log10 a b
    let (c, d) := scale 10 a b ((places : Int) - x)
    let n := roundDiv c d
    if n < Nat.pow 10 (places + 1) then (Nat.toDigits 10 n, x)
    else (Nat.toDigits 10 (n / 10), x + 1)

def exponentText (x : Int) : List Char :=
  (if x < 0 then '-' else '+') :: padLeft 2 (Nat.toDigits 10 x.natAbs)

def scientific (keepPoint : Bool) (places m : Nat) (e : Int) : List Char :=
  let (ds, x) := leading places m e
  pointed keepPoint places ds ++ 'e' :: exponentText x

def dropZeros (cs : List Char) : List Char :=
  if cs.contains '.' then
    match cs.reverse.dropWhile (· = '0') with
    | '.' :: r => r.reverse
    | r => r.reverse
  else cs

def general (keepZeros : Bool) (digits m : Nat) (e : Int) : List Char :=
  let p := max digits 1
  let (ds, x) := leading (p - 1) m e
  let trim (cs : List Char) : List Char := if keepZeros then cs else dropZeros cs
  if -4 ≤ x ∧ x < p then trim (fixed keepZeros ((p : Int) - 1 - x).toNat m e)
  else trim (pointed keepZeros (p - 1) ds) ++ 'e' :: exponentText x

def sixteenths (keepPoint : Bool) (places : Option Nat) (m : Nat) (e : Int) : List Char :=
  let shift := 52 - m.log2
  let m' := if m = 0 then 0 else m <<< shift
  let x : Int := if m = 0 then 0 else e - shift + 52
  let (n, p) := match places with
    | none => (m', 13)
    | some p =>
      if p < 13 then (roundDiv m' (Nat.pow 16 (13 - p)), p) else (m' * Nat.pow 16 (p - 13), p)
  let cs := pointed keepPoint p (padLeft (p + 1) (Nat.toDigits 16 n))
  let cs := if places.isSome then cs
    else if keepPoint then (cs.reverse.dropWhile (· = '0')).reverse else dropZeros cs
  cs ++ 'p' :: (if x < 0 then '-' else '+') :: Nat.toDigits 10 x.natAbs

def body (letter : Char) (alternate : Bool) (precision : Option Nat) : Binary64 → List Char
  | nan _ => "nan".toList
  | infinite _ => "inf".toList
  | finite _ m e =>
    let p := precision.getD 6
    match letter with
    | 'f' => fixed alternate p m e
    | 'e' => scientific alternate p m e
    | 'g' => general alternate p m e
    | _ => sixteenths alternate precision m e

def isFinite : Binary64 → Bool
  | finite .. => true
  | _ => false

end Binary64

end RootedRun.Tool
