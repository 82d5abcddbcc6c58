import RootedRun.Tool.Basic
import RootedRun.Tool.Numeral

namespace RootedRun.Tool.Test

inductive Kind
  | unary
  | binary
  | negation
  | conjunction
  | disjunction
  | opening
  | closing
  deriving DecidableEq

def unaries : List String := [
  "-r", "-w", "-x", "-e", "-f", "-d", "-c", "-b", "-p", "-u", "-g", "-k", "-s", "-t", "-z", "-n",
  "-h", "-O", "-G", "-L", "-S"]

def binaries : List String := [
  "=", "!=", "<", ">", "-eq", "-ne", "-ge", "-gt", "-le", "-lt", "-nt", "-ot", "-ef"]

def kind? (w : String) : Option Kind :=
  if unaries.contains w then some .unary
  else if binaries.contains w then some .binary
  else match w with
    | "!" => some .negation
    | "-a" => some .conjunction
    | "-o" => some .disjunction
    | "(" => some .opening
    | ")" => some .closing
    | _ => none

def kindAt? : List String → Option Kind
  | [] => none
  | w :: r =>
    match kind? w, r with
    | some .unary, [] => none
    | some .unary, [_] => some .unary
    | some .unary, op :: _ => if kind? op = some .binary then none else some .unary
    | some .opening, [] => none
    | k, _ => k

abbrev Ask := ExceptT String Act

def look (path : String) (follow : Bool) : Ask (Option Task.Info) := do
  return (← (Act.ask (.look path follow) : Act (Except Task.Fault Task.Info))).toOption

def lookFor (path : String) (follow : Bool) (f : Task.Info → Bool) : Ask Bool := do
  return (← look path follow).any f

def integer (s : String) : Except String Int :=
  match Numeral.whole? s with
  | some n => .ok n
  | none => .error ("Illegal number: " ++ s)

def unary (op a : String) : Ask Bool :=
  match op with
  | "-n" => return a ≠ ""
  | "-z" => return a = ""
  -- there is no terminal, but a descriptor has to be a number
  | "-t" => do
    discard (integer a)
    return false
  | "-e" | "-r" | "-w" | "-O" | "-G" => lookFor a true fun _ => true
  | "-f" => lookFor a true (·.kind = .file)
  | "-d" => lookFor a true (·.kind = .directory)
  | "-x" => lookFor a true (·.executable)
  | "-c" => lookFor a true (·.kind = .device)
  | "-p" => lookFor a true (·.kind = .pipe)
  | "-L" | "-h" => lookFor a false (·.kind = .link)
  | "-s" => lookFor a true (0 < ·.size)
  | _ => return false

def areSame (a b : String) : Ask Bool := do
  match ← look a true, ← look b true with
  | some s, some t => return s.place = t.place
  | _, _ => return false

def isNewer (a b : String) : Ask Bool := do
  match ← look a true, ← look b true with
  | some s, some t => return s.time > t.time
  | _, _ => return false

def binary (op a b : String) : Ask Bool := do
  let numbers (f : Int → Int → Bool) : Except String Bool := do
    return f (← integer a) (← integer b)
  match op with
  | "=" => return a = b
  | "!=" => return a ≠ b
  | "<" => return a < b
  | ">" => return b < a
  | "-eq" => numbers fun m n => m = n
  | "-ne" => numbers fun m n => m ≠ n
  | "-ge" => numbers fun m n => m ≥ n
  | "-gt" => numbers fun m n => m > n
  | "-le" => numbers fun m n => m ≤ n
  | "-lt" => numbers fun m n => m < n
  | "-ef" => areSame a b
  | "-nt" => isNewer a b
  | "-ot" => isNewer b a
  | _ => return false

abbrev Result := Ask (Bool × List String)

mutual

def disjunction : (fuel : Nat) → Option Kind → List String → Result
  | 0, _, _ => throw "condition too long"
  | fuel + 1, k, ws => do
    let (a, ws) ← conjunction fuel k ws
    match kindAt? ws.tail with
    | some .disjunction =>
      let rest := ws.drop 2
      let (b, ws) ← disjunction fuel (kindAt? rest) rest
      return (a || b, ws)
    | _ => return (a, ws)

def conjunction : (fuel : Nat) → Option Kind → List String → Result
  | 0, _, _ => throw "condition too long"
  | fuel + 1, k, ws => do
    let (a, ws) ← negation fuel k ws
    match kindAt? ws.tail with
    | some .conjunction =>
      let rest := ws.drop 2
      let (b, ws) ← conjunction fuel (kindAt? rest) rest
      return (a && b, ws)
    | _ => return (a, ws)

def negation : (fuel : Nat) → Option Kind → List String → Result
  | 0, _, _ => throw "condition too long"
  | fuel + 1, some .negation, ws => do
    match ws.tail with
    | [] => return (true, ws)
    | rest =>
      let (a, ws) ← negation fuel (kindAt? rest) rest
      return (! a, ws)
  | fuel + 1, k, ws => primary fuel k ws

def primary : (fuel : Nat) → Option Kind → List String → Result
  | 0, _, _ => throw "condition too long"
  | _ + 1, _, [] => return (false, [])
  | fuel + 1, some .opening, _ :: rest => do
    if kindAt? rest = some .closing then return (false, rest)
    let (a, ws) ← disjunction fuel (kindAt? rest) rest
    if kindAt? ws.tail = some .closing then return (a, ws.tail)
    else throw "closing paren expected"
  | _ + 1, some .unary, op :: rest =>
    match rest with
    | [] => throw (op ++ ": argument expected")
    | a :: _ => return (← unary op a, rest)
  | _ + 1, _, a :: rest =>
    match kindAt? rest, rest with
    | some .binary, op :: b :: r => return (← binary op a b, b :: r)
    | some .binary, [op] => throw (op ++ ": argument expected")
    | _, _ => return (a ≠ "", a :: rest)

end

/-- The truth of a condition, or why the words are none. Three words with a binary operator between
them are always a comparison. -/
def holds (words : List String) : Ask Bool := do
  let isComparison : Bool := match words with
    | [_, op, _] => kind? op = some .binary
    | _ => false
  let inner := if isComparison then words else unwrapped
  let first := if isComparison then none else kindAt? inner
  let (a, ws) ← disjunction (4 * (words.length + 2)) first inner
  match ws with
  | w :: _ :: _ => throw (if w = "" then "unexpected operator" else w ++ ": unexpected operator")
  | _ => return a
where
  unwrapped : List String :=
    if (words.length = 3 ∨ words.length = 4) ∧ words.head? = some "(" ∧ words.getLast? = some ")"
    then words.tail.dropLast
    else words

def status (words : List String) : Act (Nat × Option String) := do
  if words.isEmpty then return (1, none)
  match ← (holds words).run with
  | .ok true => return (0, none)
  | .ok false => return (1, none)
  | .error e => return (2, some e)

def words? (name : String) (args : List String) : Option (List String) :=
  if name ≠ "[" then some args
  else if args.getLast? = some "]" then some args.dropLast
  else none

end RootedRun.Tool.Test
