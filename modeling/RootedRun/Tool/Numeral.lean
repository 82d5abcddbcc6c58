import RootedRun.Text.Hex

namespace RootedRun.Tool.Numeral

def isOctal (c : Char) : Bool := '0' ≤ c && c ≤ '7'

def value (base : Nat) (ds : List Char) : Nat :=
  ds.foldl (fun n d => n * base + (Text.Hex.value? d).getD 0) 0

def decimal? (s : String) : Option Nat :=
  if s ≠ "" ∧ s.toList.all Char.isDigit then some (value 10 s.toList) else none

def leading? (cs : List Char) : Option (Nat × List Char) :=
  match cs with
  | '0' :: 'x' :: d :: r | '0' :: 'X' :: d :: r =>
    if Text.Hex.isDigit d then
      some (value 16 ((d :: r).takeWhile Text.Hex.isDigit), (d :: r).dropWhile Text.Hex.isDigit)
    else some (0, cs.tail)
  | '0' :: r => some (value 8 (r.takeWhile isOctal), r.dropWhile isOctal)
  | c :: r =>
    if c.isDigit then some (value 10 (cs.takeWhile Char.isDigit), r.dropWhile Char.isDigit)
    else none
  | [] => none

def isSpace (c : Char) : Bool := c = ' ' || (9 ≤ c.toNat && c.toNat ≤ 13)

def signed (cs : List Char) : Bool × List Char :=
  match cs.dropWhile isSpace with
  | '-' :: r => (true, r)
  | '+' :: r => (false, r)
  | r => (false, r)

def withSign (negative : Bool) (n : Nat) : Int := if negative then -(n : Int) else n

def signed? (cs : List Char) : Option (Int × List Char) :=
  let (negative, r) := signed cs
  (leading? r).map fun (n, r) => (withSign negative n, r)

def smallest : Int := Int64.minValue.toInt

def largest : Int := Int64.maxValue.toInt

def fits (n : Int) : Bool := smallest ≤ n && n ≤ largest

def clamp (n : Int) : Int := max smallest (min largest n)

def whole? (s : String) : Option Int :=
  let (negative, cs) := signed s.toList
  let ds := cs.takeWhile Char.isDigit
  let n := withSign negative (value 10 ds)
  if ¬ ds.isEmpty ∧ fits n ∧ (cs.dropWhile Char.isDigit).all isSpace then some n else none

end RootedRun.Tool.Numeral
