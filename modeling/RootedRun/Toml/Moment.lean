namespace RootedRun.Toml

structure Date where
  year : Nat
  month : Nat
  day : Nat
  deriving DecidableEq

structure TimeOfDay where
  hour : Nat
  minute : Nat
  second : Nat
  nanosecond : Nat
  deriving DecidableEq

inductive Offset
  | zulu
  | minutes : Int → Offset
  deriving DecidableEq

inductive Moment
  | date : Date → Moment
  | time : TimeOfDay → Moment
  | both : Date → TimeOfDay → Option Offset → Moment
  deriving DecidableEq

def isLeap (year : Nat) : Bool := year % 4 = 0 && (year % 100 ≠ 0 || year % 400 = 0)

def daysInMonth (year : Nat) : Nat → Nat
  | 2 => if isLeap year then 29 else 28
  | 4 | 6 | 9 | 11 => 30
  | _ => 31

def Date.Exists (d : Date) : Prop :=
  1 ≤ d.month ∧ d.month ≤ 12 ∧ 1 ≤ d.day ∧ d.day ≤ daysInMonth d.year d.month

instance (d : Date) : Decidable d.Exists := inferInstanceAs (Decidable (_ ∧ _))

def TimeOfDay.Exists (t : TimeOfDay) : Prop := t.hour ≤ 23 ∧ t.minute ≤ 59 ∧ t.second ≤ 60

instance (t : TimeOfDay) : Decidable t.Exists := inferInstanceAs (Decidable (_ ∧ _))

namespace Moment

def digit? (c : Char) : Option Nat := if c.isDigit then some (c.toNat - '0'.toNat) else none

def number? (cs : List Char) : Option Nat :=
  cs.foldl (fun n c => do return (← n) * 10 + (← digit? c)) (some 0)

def readDate : List Char → Option (Date × List Char)
  | a :: b :: c :: d :: '-' :: e :: f :: '-' :: g :: h :: r => do
    let date : Date := ⟨← number? [a, b, c, d], ← number? [e, f], ← number? [g, h]⟩
    if date.Exists then some (date, r) else none
  | _ => none

def nanoseconds (digits : List Char) : Nat :=
  (number? ((digits ++ List.replicate 9 '0').take 9)).getD 0

def readFraction : List Char → Nat × List Char
  | '.' :: r =>
    match r.takeWhile Char.isDigit with
    | [] => (0, '.' :: r)
    | ds => (nanoseconds ds, r.dropWhile Char.isDigit)
  | r => (0, r)

def readTime : List Char → Option (TimeOfDay × List Char)
  | a :: b :: ':' :: c :: d :: ':' :: e :: f :: r => do
    let (fraction, r) := readFraction r
    let time : TimeOfDay := ⟨← number? [a, b], ← number? [c, d], ← number? [e, f], fraction⟩
    if time.Exists then some (time, r) else none
  | _ => none

def readOffset : List Char → Option (Offset × List Char)
  | 'Z' :: r | 'z' :: r => some (.zulu, r)
  | s :: a :: b :: ':' :: c :: d :: r => do
    let hour ← number? [a, b]
    let minute ← number? [c, d]
    if hour ≤ 23 ∧ minute ≤ 59 then
      match s with
      | '+' => some (.minutes (hour * 60 + minute), r)
      | '-' => some (.minutes (-(hour * 60 + minute : Nat)), r)
      | _ => none
    else none
  | _ => none

def readTimeAfterDate : List Char → Option (TimeOfDay × List Char)
  | 'T' :: r | 't' :: r | ' ' :: r => readTime r
  | _ => none

def read (cs : List Char) : Option (Moment × List Char) :=
  match readDate cs with
  | none => (readTime cs).map fun (t, r) => (.time t, r)
  | some (d, r) =>
    match readTimeAfterDate r with
    | none => some (.date d, r)
    | some (t, r) =>
      match readOffset r with
      | none => some (.both d t none, r)
      | some (o, r) => some (.both d t (some o), r)

def padded (width n : Nat) : String :=
  let ds := Nat.toDigits 10 n
  String.ofList (List.replicate (width - ds.length) '0' ++ ds)

def dateText (d : Date) : String :=
  padded 4 d.year ++ "-" ++ padded 2 d.month ++ "-" ++ padded 2 d.day

def fractionText (n : Nat) : String :=
  if n = 0 then ""
  else "." ++ String.ofList ((padded 9 n).toList.reverse.dropWhile (· = '0')).reverse

def timeText (t : TimeOfDay) : String :=
  padded 2 t.hour ++ ":" ++ padded 2 t.minute ++ ":" ++ padded 2 t.second
    ++ fractionText t.nanosecond

def offsetText : Offset → String
  | .zulu => "Z"
  | .minutes m =>
    (if m < 0 then "-" else "+") ++ padded 2 (m.natAbs / 60) ++ ":" ++ padded 2 (m.natAbs % 60)

def text : Moment → String
  | .date d => dateText d
  | .time t => timeText t
  | .both d t o => dateText d ++ "T" ++ timeText t ++ (o.map offsetText).getD ""

end Moment

end RootedRun.Toml
