import RootedRun.Tool.Basic
import RootedRun.Tool.Numeral
import RootedRun.Tool.Sleep

namespace RootedRun.Tool.Tail

structure Amount where
  ofLines : Bool
  fromStart : Bool
  number : Nat

def unit? : List Char → Option Nat
  | [] => some 1
  | ['b'] => some 512
  | [c] => power 1024 c
  | [c, 'B'] | [c, 'D'] => power 1000 c
  | [c, 'i', 'B'] => power 1024 c
  | _ => none
where
  power (base : Nat) (c : Char) : Option Nat :=
    (exponents.lookup c).map (Nat.pow base)
  exponents : List (Char × Nat) := [('k', 1), ('K', 1), ('m', 2), ('M', 2), ('G', 3), ('T', 4),
    ('P', 5), ('E', 6), ('Z', 7), ('Y', 8)]

inductive Misnumber
  | malformed
  | tooLarge
  | outOfRange

def amountLimit : Nat := 1 <<< 64

def numberOf (cs : List Char) : Except Misnumber Nat :=
  let (negative, rest) := Numeral.signed cs
  let ds := rest.takeWhile Char.isDigit
  let behind := if ds.isEmpty then cs else rest.dropWhile Char.isDigit
  match if negative ∨ (ds.isEmpty ∧ behind.isEmpty) then none else unit? behind with
  | none => .error .malformed
  | some u =>
    let n := (if ds.isEmpty then 1 else Numeral.value 10 ds) * u
    if n < amountLimit then .ok n else .error .tooLarge

def Misnumber.text : Misnumber → String
  | malformed => ""
  | tooLarge => ": Value too large for defined data type"
  | outOfRange => ": Numerical result out of range"

inductive Fault
  | misused (p : Options.Problem)
  | misnumbered (what word : String) (m : Misnumber)
  | misplaced (digit : Char)
  | unknownWay (word : String)
  | ambiguousWay (word : String)

def Amount.ofText (ofLines : Bool) (s : String) : Except Fault Amount :=
  let what := if ofLines then "number of lines" else "number of bytes"
  let (fromStart, cs) := match s.toList with
    | '-' :: r => (false, r)
    | cs => (cs.head? = some '+', cs)
  match numberOf cs with
  | .ok n => .ok ⟨ofLines, fromStart, n⟩
  | .error m => .error (.misnumbered what (String.ofList cs) m)

inductive Following
  | descriptor
  | name
  deriving DecidableEq

namespace Following

def word : Following → String
  | descriptor => "descriptor"
  | name => "name"

def all : List Following := [descriptor, name]

def ofText (s : String) : Except Fault Following :=
  match all.filter (s.isPrefixOf ·.word) with
  | [] => .error (.unknownWay s)
  | [f] => .ok f
  | _ => .error (.ambiguousWay s)

end Following

/-- `retries` keeps trying to open what cannot be opened, and `watched` is the process with which
following ends. A name is looked up again after so many looks that found nothing new. -/
structure Plan where
  amount : Amount
  mark : Char
  headers : Option Bool
  follows : Option Following
  retries : Bool
  pause : Nat
  watched : Option Nat
  patience : Nat

def usual : Plan := ⟨⟨true, false, 10⟩, '\n', none, none, false, 1000000, none, 5⟩

def rules : Options.Rules where
  letters := [('c', .always), ('n', .always), ('s', .always), ('f', .never), ('F', .never),
    ('q', .never), ('v', .never), ('z', .never)] ++ "0123456789".toList.map (·, .never)
  names := [("bytes", .always, 'c'), ("follow", .may, 'f'), ("lines", .always, 'n'),
    ("max-unchanged-stats", .always, 'm'), ("-disable-inotify", .never, 'i'),
    ("pid", .always, 'p'), ("-presume-input-pipe", .never, 'u'), ("quiet", .never, 'q'),
    ("retry", .never, 'r'), ("silent", .never, 'q'), ("sleep-interval", .always, 's'),
    ("verbose", .never, 'v'), ("zero-terminated", .never, 'z')]

def pidLimit : Nat := 1 <<< 31

def wholeNumber (what word : String) (limit : Nat) : Except Fault Nat :=
  let (negative, ds) := Numeral.signed word.toList
  if negative ∨ ds.isEmpty ∨ ! ds.all Char.isDigit then
    .error (.misnumbered what word .malformed)
  else
    let n := Numeral.value 10 ds
    if n < limit then .ok n else .error (.misnumbered what word .tooLarge)

def Plan.withAmount (p : Plan) (a : Amount) : Plan :=
  { p with amount := { a with fromStart := a.fromStart || p.amount.fromStart } }

def Plan.switch (p : Plan) : Options.Switch → Except Fault Plan
  | ('n', some v) => (Amount.ofText true v).map p.withAmount
  | ('c', some v) => (Amount.ofText false v).map p.withAmount
  | ('f', some way) => (Following.ofText way).map fun f => { p with follows := some f }
  | ('f', none) => .ok { p with follows := some .descriptor }
  | ('F', _) => .ok { p with follows := some .name, retries := true }
  | ('r', _) => .ok { p with retries := true }
  | ('q', _) => .ok { p with headers := some false }
  | ('v', _) => .ok { p with headers := some true }
  | ('z', _) => .ok { p with mark := '\x00' }
  | ('s', some v) =>
    match Binary64.read? v.toList with
    | some (x, _, []) =>
      match Sleep.time? 1000000 x with
      | some t => .ok { p with pause := t.getD p.pause }
      | none => .error (.misnumbered "number of seconds" v .malformed)
    | _ => .error (.misnumbered "number of seconds" v .malformed)
  | ('p', some v) =>
    (wholeNumber "PID" v pidLimit).map fun n => { p with watched := if n = 0 then none else some n }
  | ('m', some v) =>
    (wholeNumber "maximum number of unchanged stats between opens" v amountLimit).map fun n =>
      { p with patience := n }
  | (l, _) =>
    if l.isDigit then .error (.misplaced l) else .ok p

def Plan.warnings (p : Plan) : List String :=
  (match p.retries, p.follows with
    | true, none => ["--retry ignored; --retry is useful only when following"]
    | true, some .descriptor => ["--retry only effective for the initial open"]
    | _, _ => [])
  ++ (if p.watched.isSome ∧ p.follows.isNone then
    ["PID ignored; --pid=PID is useful only when following"] else [])

def usualEdition : Int := 200809

def edition (env : List (String × String)) : Int :=
  match env.lookup "_POSIX2_VERSION" with
  | none => usualEdition
  | some s =>
    let (negative, ds) := Numeral.signed s.toList
    if ds.isEmpty ∨ ! ds.all Char.isDigit then usualEdition
    else Numeral.withSign negative (Numeral.value 10 ds)

def hyphenEdition : Int := 200112

def older? (edition : Int) (word : String) : Option (Except Fault Plan) :=
  let plan (fromStart : Bool) (cs : List Char) : Option (Except Fault Plan) :=
    let ds := cs.takeWhile Char.isDigit
    let (ofLines, unit, rest) := match cs.dropWhile Char.isDigit with
      | 'b' :: r => (false, 512, r)
      | 'c' :: r => (false, 1, r)
      | 'l' :: r => (true, 1, r)
      | r => (true, 1, r)
    let number := if ds.isEmpty then 10 else Numeral.value 10 ds
    let n := number * unit
    if rest ≠ [] ∧ rest ≠ ['f'] then none
    else if n < amountLimit then
      some (.ok { usual with
        amount := ⟨ofLines, fromStart, n⟩
        follows := if rest = ['f'] then some .descriptor else none })
    else some (.error (.misnumbered "number" word
      (if number < amountLimit then .malformed else .outOfRange)))
  match word.toList with
  | '+' :: cs => if edition < hyphenEdition ∨ usualEdition ≤ edition then plan true cs else none
  | '-' :: cs => if hyphenEdition ≤ edition ∧ (cs = [] ∨ cs = ['c']) then none else plan false cs
  | _ => none

def read (c : Call) : Except Fault (Plan × List String) := do
  let older? := older? (edition c.env)
  let older := match c.args with
    | [a] | [a, "--"] => (older? a).map (·, [])
    | [a, n] => if n.startsWith "-" ∧ n ≠ "-" then none else (older? a).map (·, [n])
    | [a, "--", n] => (older? a).map (·, [n])
    | _ => none
  match older with
  | some (p, names) => return (← p, if names.isEmpty then ["-"] else names)
  | none =>
    let (switches, names) := c.read rules
    let p ← switches.foldlM Plan.switch usual
    let names ← names.mapError .misused
    return (p, if names.isEmpty then ["-"] else names)

def Plan.isIdle (p : Plan) : Bool :=
  p.amount.number = 0 && ! p.amount.fromStart && p.follows.isNone

end RootedRun.Tool.Tail
