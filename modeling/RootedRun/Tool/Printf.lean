import RootedRun.Tool.Binary64
import RootedRun.Tool.Escape

namespace RootedRun.Tool.Printf

/-- What is written, the words that are left, whether one was taken, and the complaints. A fault
ends all output, and so does `stopped`. -/
structure Output where
  text : String
  words : List String
  took : Bool
  complaints : List String
  fault : Option String
  stopped : Bool

namespace Output

def start (words : List String) : Output := ⟨"", words, false, [], none, false⟩

def put (o : Output) (s : String) : Output := { o with text := o.text ++ s }

def complain (o : Output) (message : String) : Output :=
  { o with complaints := o.complaints ++ [message] }

def take (o : Output) : Option String × Output :=
  match o.words with
  | [] => (none, o)
  | w :: ws => (some w, { o with words := ws, took := true })

def isOver (o : Output) : Bool := o.stopped || o.fault.isSome

end Output

def Output.check (o : Output) (word : String) (rest : List Char) (tooFar : Bool) : Output :=
  if rest ≠ [] then
    o.complain (word ++ (if rest.length = word.length then ": expected numeric value"
      else ": not completely converted"))
  else if tooFar then o.complain (word ++ ": Numerical result out of range")
  else o

def quoted? (word : String) : Option Nat :=
  match word.toList with
  | '\'' :: r | '"' :: r => some ((r.head?.map Char.toNat).getD 0)
  | _ => none

def takeInteger (signed : Bool) (o : Output) : Int × Output :=
  match o.take with
  | (none, o) => (0, o)
  | (some w, o) =>
    match quoted? w with
    | some n => (n, o)
    | none =>
      match Numeral.signed? w.toList with
      | none => (0, o.check w w.toList false)
      | some (n, rest) =>
        if signed then (Numeral.clamp n, o.check w rest (! Numeral.fits n))
        else
          -- negative numbers count down from the largest of 64 bits
          let most := UInt64.size - 1
          let v := if n.natAbs > most then most else (UInt64.ofInt n).toNat
          (v, o.check w rest (n.natAbs > most))

def takeNumber (o : Output) : Binary64 × Output :=
  match o.take with
  | (none, o) => (.finite false 0 0, o)
  | (some w, o) =>
    match quoted? w with
    | some n => (.finite false n 0, o)
    | none =>
      match Binary64.read? w.toList with
      | none => (.finite false 0 0, o.check w w.toList false)
      | some (v, tooFar, rest) => (v, o.check w rest tooFar)

structure Style where
  flags : List Char
  width : Int
  precision : Option Nat

namespace Style

def has (s : Style) (c : Char) : Bool := s.flags.contains c

def isLeft (s : Style) : Bool := s.has '-' || s.width < 0

def pad (s : Style) (t : String) : String :=
  let fill := String.ofList (List.replicate (s.width.natAbs - t.length) ' ')
  if s.isLeft then t ++ fill else fill ++ t

def text (s : Style) (t : String) : String :=
  s.pad (match s.precision with
    | none => t
    | some n => String.ofList (t.toList.take n))

def number (s : Style) (zeros : Bool) (front digits : List Char) : String :=
  let room := s.width.natAbs - front.length - digits.length
  let fill := if zeros ∧ s.has '0' ∧ ¬ s.isLeft then List.replicate room '0' else []
  s.pad (String.ofList (front ++ fill ++ digits))

def sign (s : Style) (negative : Bool) : List Char :=
  if negative then ['-'] else if s.has '+' then ['+'] else if s.has ' ' then [' '] else []

def digits (s : Style) (base n : Nat) : List Char :=
  if n = 0 ∧ s.precision = some 0 then []
  else Binary64.padLeft (s.precision.getD 0) (Nat.toDigits base n)

def integer (s : Style) (n : Int) : String :=
  s.number s.precision.isNone (s.sign (n < 0)) (s.digits 10 n.natAbs)

def octal (s : Style) (n : Nat) : String :=
  let ds := s.digits 8 n
  s.number s.precision.isNone [] (if s.has '#' ∧ ds.head? ≠ some '0' then '0' :: ds else ds)

def hexadecimal (s : Style) (n : Nat) : String :=
  s.number s.precision.isNone (if s.has '#' ∧ n ≠ 0 then ['0', 'x'] else []) (s.digits 16 n)

def real (s : Style) (letter : Char) (v : Binary64) : String :=
  let base := if letter = 'a' ∧ v.isFinite then ['0', 'x'] else []
  s.number v.isFinite (s.sign v.isNegative ++ base) (v.body letter (s.has '#') s.precision)

end Style

def cased (letter : Char) (s : String) : String :=
  if letter.isUpper then String.ofList (s.toList.map Char.toUpper) else s

def convert (s : Style) (letter : Char) (o : Output) : Option Output :=
  match letter with
  | 's' =>
    let (w, o) := o.take
    some (o.put (s.text (w.getD "")))
  | 'b' =>
    let (w, o) := o.take
    let (t, stop) := Escape.unescape (w.getD "").toList
    some { o.put (s.text t) with stopped := stop }
  | 'c' =>
    let (w, o) := o.take
    some (o.put (s.pad (((w.bind (·.toList.head?)).getD '\x00').toString)))
  | 'd' | 'i' =>
    let (n, o) := takeInteger true o
    some (o.put (s.integer n))
  | 'u' =>
    let (n, o) := takeInteger false o
    some (o.put (({ s with flags := s.flags.filter fun c => c ≠ '+' && c ≠ ' ' }).integer n))
  | 'o' =>
    let (n, o) := takeInteger false o
    some (o.put (s.octal n.toNat))
  | 'x' | 'X' =>
    let (n, o) := takeInteger false o
    some (o.put (cased letter (s.hexadecimal n.toNat)))
  | 'a' | 'A' | 'e' | 'E' | 'f' | 'F' | 'g' | 'G' =>
    let (v, o) := takeNumber o
    some (o.put (cased letter (s.real letter.toLower v)))
  | _ => none

def isFlag (c : Char) : Bool := c = '#' || c = '-' || c = '+' || c = ' ' || c = '0'

def amount (o : Output) (cs : List Char) : Option Int × Output × List Char :=
  match cs with
  | '*' :: r =>
    let (n, o) := takeInteger true o
    (some (Int32.ofInt n).toInt, o, r)
  | cs =>
    let ds := cs.takeWhile Char.isDigit
    (if ds.isEmpty then none else some (Numeral.value 10 ds : Int), o, cs.dropWhile Char.isDigit)

def directive (o : Output) (cs : List Char) : Output × List Char :=
  let flags := cs.takeWhile isFlag
  let (width, o, r) := amount o (cs.dropWhile isFlag)
  let (precision, o, r) := match r with
    | '.' :: r =>
      let (p, o, r) := amount o r
      (some (p.getD 0), o, r)
    | r => (none, o, r)
  match r with
  | [] => ({ o with fault := some "missing format character" }, [])
  | l :: rest =>
    let style : Style := ⟨flags, width.getD 0, (precision.filter (0 ≤ ·)).map Int.toNat⟩
    match convert style l o with
    | some o => (o, rest)
    | none =>
      let word := '%' :: cs.take (cs.length - rest.length)
      ({ o with fault := some (String.ofList word ++ ": invalid directive") }, [])

def pass : (fuel : Nat) → Output → List Char → Output
  | 0, o, _ => o
  | _ + 1, o, [] => o
  | fuel + 1, o, '\\' :: cs =>
    let (c, cs) := Escape.read cs
    pass fuel (o.put c.toString) cs
  | fuel + 1, o, '%' :: '%' :: cs => pass fuel (o.put "%") cs
  | fuel + 1, o, '%' :: cs =>
    let (o, cs) := directive o cs
    if o.isOver then o else pass fuel o cs
  | fuel + 1, o, c :: cs => pass fuel (o.put c.toString) cs

def passes (format : List Char) : (fuel : Nat) → Output → Output
  | 0, o => o
  | fuel + 1, o =>
    let o := pass (format.length + 1) { o with took := false } format
    if o.isOver ∨ o.words.isEmpty ∨ ¬ o.took then o else passes format fuel o

def run (format : String) (words : List String) : Output :=
  passes format.toList (words.length + 1) (.start words)

def Output.status (o : Output) : Nat := if o.complaints.isEmpty then 0 else 1

end RootedRun.Tool.Printf
