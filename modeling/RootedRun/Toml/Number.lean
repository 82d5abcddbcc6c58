import RootedRun.Text.Hex

namespace RootedRun.Toml

inductive Number
  | integer : Int → Number
  | decimal (negative : Bool) (mantissa : Nat) (exponent : Int)
  | infinity (negative : Bool)
  | notANumber
  deriving DecidableEq

namespace Number

def moreDigits (isDigit : Char → Bool) : List Char → Option (List Char × List Char)
  | [] => some ([], [])
  | '_' :: c :: r =>
    if isDigit c then (moreDigits isDigit r).map fun (ds, r) => (c :: ds, r) else none
  | c :: r =>
    if isDigit c then (moreDigits isDigit r).map fun (ds, r) => (c :: ds, r)
    else if c = '_' then none
    else some ([], c :: r)

def digits (isDigit : Char → Bool) : List Char → Option (List Char × List Char)
  | [] => none
  | c :: r =>
    if isDigit c then (moreDigits isDigit r).map fun (ds, r) => (c :: ds, r) else none

def whole : List Char → Option (List Char × List Char)
  | '0' :: r => some (['0'], r)
  | cs => digits Char.isDigit cs

def value (base : Nat) (ds : List Char) : Nat :=
  ds.foldl (fun n d => n * base + (Text.Hex.value? d).getD 0) 0

def sign : List Char → Bool × List Char
  | '-' :: r => (true, r)
  | '+' :: r => (false, r)
  | r => (false, r)

/-- The least magnitude that rounds to infinity: half a step above the largest double. -/
def overflow : Nat := (1 <<< 54 - 1) <<< 970

def overflows (mantissa : Nat) (exponent : Int) : Bool :=
  -- the number of digits decides all but the close cases
  let size := (Nat.toDigits 10 mantissa).length + exponent
  if mantissa = 0 ∨ size < 300 then false
  else if size > 320 then true
  else if 0 ≤ exponent then overflow ≤ mantissa * Nat.pow 10 exponent.toNat
  else overflow * Nat.pow 10 (-exponent).toNat ≤ mantissa

def integer? (n : Int) : Option Number :=
  if Int64.minValue.toInt ≤ n ∧ n ≤ Int64.maxValue.toInt then some (.integer n) else none

def decimal? (negative : Bool) (mantissa : Nat) (exponent : Int) : Option Number :=
  if ¬ negative ∧ overflows mantissa exponent then none
  else some (.decimal negative mantissa exponent)

def exponent : List Char → Option (Int × List Char)
  | 'e' :: r | 'E' :: r => do
    let (negative, r) := sign r
    let (ds, r) ← digits Char.isDigit r
    let n : Int := value 10 ds
    return (if negative then -n else n, r)
  | r => some (0, r)

def signed (negative : Bool) (n : Nat) : Int := if negative then -n else n

def readDecimal (cs : List Char) : Option (Number × List Char) := do
  let (negative, r) := sign cs
  let (ds, r) ← whole r
  match r with
  | '.' :: r =>
    let (fs, r) ← digits Char.isDigit r
    let (e, r) ← exponent r
    return (← decimal? negative (value 10 (ds ++ fs)) (e - fs.length), r)
  | 'e' :: _ | 'E' :: _ =>
    let (e, r) ← exponent r
    return (← decimal? negative (value 10 ds) e, r)
  | r => return (← integer? (signed negative (value 10 ds)), r)

def inBase (base : Nat) (isDigit : Char → Bool) (cs : List Char) :
    Option (Number × List Char) := do
  let (ds, r) ← digits isDigit cs
  return (← integer? (value base ds), r)

def isOctal (c : Char) : Bool := '0' ≤ c && c ≤ '7'

def isBinary (c : Char) : Bool := c = '0' || c = '1'

def read (cs : List Char) : Option (Number × List Char) :=
  match cs with
  | '0' :: 'x' :: r => inBase 16 Text.Hex.isDigit r
  | '0' :: 'o' :: r => inBase 8 isOctal r
  | '0' :: 'b' :: r => inBase 2 isBinary r
  | _ =>
    match sign cs with
    | (negative, 'i' :: 'n' :: 'f' :: r) => some (.infinity negative, r)
    | (_, 'n' :: 'a' :: 'n' :: r) => some (.notANumber, r)
    | _ => readDecimal cs

end Number

end RootedRun.Toml
