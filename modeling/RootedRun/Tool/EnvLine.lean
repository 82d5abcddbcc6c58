import RootedRun.Invocation
import RootedRun.Task.Basic
import RootedRun.Tool.Numeral
import RootedRun.Tool.Options
import RootedRun.Tool.Split

/-!
The words given to the program that runs a utility in an environment of its own: switches, then
variables, then the utility and what it is given.
-/

namespace RootedRun.Tool.Signals

def firstNames : List String :=
  ["HUP", "INT", "QUIT", "ILL", "TRAP", "ABRT", "BUS", "FPE", "KILL", "USR1", "SEGV", "USR2",
    "PIPE", "ALRM", "TERM", "STKFLT", "CHLD", "CONT", "STOP", "TSTP", "TTIN", "TTOU", "URG",
    "XCPU", "XFSZ", "VTALRM", "PROF", "WINCH", "POLL", "PWR", "SYS"]

def countedNames : List String :=
  "RTMIN" :: (List.range 15).map (fun n => "RTMIN+" ++ toString (n + 1))
  ++ (List.range 14).map (fun n => "RTMAX-" ++ toString (14 - n)) ++ ["RTMAX"]

def named : List (Nat × String) :=
  firstNames.mapIdx (fun n s => (n + 1, s)) ++ countedNames.mapIdx (fun n s => (n + 34, s))

def nameOf (n : Nat) : String := (named.lookup n).getD ""

def otherNames : List (String × Nat) := [("IOT", 6), ("CLD", 17), ("IO", 29)]

def fixed : List Nat := [9, 19]

def ofStatus (n : Nat) : Nat := if n % 128 = 0 ∨ n % 128 = 127 then n else n % 128

def ofName? (name : String) : Option Nat :=
  ((named.find? (·.2 = name)).map (·.1)).or (otherNames.lookup name)

def ofText? (s : String) : Option Nat :=
  match Numeral.decimal? s with
  | some n => if named.any (·.1 = ofStatus n) then some (ofStatus n) else none
  | none =>
    let upper := String.ofList (s.toList.map Char.toUpper)
    (ofName? upper).or (if upper.startsWith "SIG" then ofName? (upper.drop 3).copy else none)

end RootedRun.Tool.Signals

namespace RootedRun.Tool

structure EnvLine.Demand where
  signal : Nat
  ignores : Bool
  wished : Bool
  deriving DecidableEq

/-- What becomes of the environment, and of signals. `blocks` are the signals that are blocked from
then on, or not any more. `listed` asks for the signals that are ignored or blocked, `told` for an
account of everything, and `notes` are what there is to tell so far. -/
structure EnvLine.Change where
  emptied : Bool
  removed : List String
  dir : Option String
  ofNuls : Bool
  told : Bool
  demands : List EnvLine.Demand
  blocks : List (Nat × Bool)
  listed : Bool
  notes : List Split.Note
  deriving DecidableEq

/-- `vars` are the variables in the order in which they were set, and `sets` are the words that
set some. -/
structure EnvLine where
  change : EnvLine.Change
  sets : List String
  vars : List (String × String)
  utility : Option Invocation
  deriving DecidableEq

inductive EnvLine.Fault
  | misused (p : Options.Problem)
  | unknownSignal (word : String)
  | unsplit (f : Split.Fault)

namespace EnvLine

def Change.none : Change := ⟨false, [], .none, false, false, [], [], false, []⟩

def set (name value : String) : List (String × String) → List (String × String)
  | [] => [(name, value)]
  | v :: vs => if v.1 = name then (name, value) :: vs else v :: set name value vs

def setting? (word : String) : Option (String × String) :=
  match word.toList.dropWhile (· ≠ '=') with
  | [] => none
  | _ :: value => some (String.ofList (word.toList.takeWhile (· ≠ '=')), String.ofList value)

def operands (change : Change) (vars : List (String × String)) : List String → EnvLine
  | [] => ⟨change, [], vars, none⟩
  | w :: ws =>
    match setting? w with
    | some (n, v) =>
      let line := operands change (set n v vars) ws
      { line with sets := w :: line.sets }
    | none => ⟨change, [], vars, some ⟨w, ws⟩⟩

def rules : Options.Rules where
  letters := [('C', .always), ('i', .never), ('S', .always), ('u', .always), ('v', .never),
    ('0', .never)]
  names := [("ignore-environment", .never, 'i'), ("null", .never, '0'), ("unset", .always, 'u'),
    ("chdir", .always, 'C'), ("default-signal", .may, 'd'), ("ignore-signal", .may, 'g'),
    ("block-signal", .may, 'b'), ("list-signal-handling", .never, 'l'), ("debug", .never, 'v'),
    ("split-string", .always, 'S')]

def signals : Option String → Except Fault (List Nat)
  | .none => .ok (Signals.named.map (·.1))
  | some list =>
    ((list.splitOn ",").filter (· ≠ "")).mapM fun s =>
      match Signals.ofText? s with
      | some n => .ok n
      | .none => .error (.unknownSignal s)

def Change.demand (c : Change) (list : Option String) (ignores : Bool) : Except Fault Change :=
  (signals list).map fun ns =>
    let others := c.demands.filter (! ns.contains ·.signal)
    { c with demands := others ++ ns.eraseDups.map (⟨·, ignores, list.isNone⟩) }

def Change.block (c : Change) (list : Option String) (blocks : Bool) : Except Fault Change :=
  (signals list).map fun ns =>
    let others := c.blocks.filter (! ns.contains ·.1)
    { c with blocks := others ++ ns.eraseDups.map (·, blocks) }

def Change.switch (c : Change) : Options.Switch → Except Fault Change
  | ('i', _) => .ok { c with emptied := true }
  | ('0', _) => .ok { c with ofNuls := true }
  | ('v', _) => .ok { c with told := true }
  | ('l', _) => .ok { c with listed := true }
  | ('u', some n) => .ok { c with removed := c.removed ++ [n] }
  | ('C', some d) => .ok { c with dir := some d }
  | ('d', list) => do (← c.demand list false).block list false
  | ('g', list) => c.demand list true
  | ('b', list) => c.block list true
  | _ => .ok c

def Change.note (c : Change) (notes : List Split.Note) : Change :=
  if c.told then { c with notes := c.notes ++ notes } else c

/-- Reads the switches, as far as the first text that is to be split. That and the words after the
switches are left. -/
def switches (c : Change) : List String → Except Fault (Change × Option String × List String)
  | [] => .ok (c, .none, [])
  | w :: ws =>
    if w = "--" then .ok (c, .none, ws)
    else match Options.ofWord? rules.complete w with
    | .none => .ok (c, .none, w :: ws)
    | some (ss, ending) => do
      let c ← (ss.filter (·.1 ≠ 'S')).foldlM Change.switch c
      match ss.lookup 'S' with
      | some text => .ok (c, text, ws)
      | .none =>
        match ending, ws with
        | .wrong p, _ => .error (.misused p)
        | .whole, ws => switches c ws
        | .wants _ missing, [] => .error (.misused missing)
        | .wants l _, v :: ws =>
          if l = 'S' then .ok (c, some v, ws)
          else do switches (← c.switch (l, some v)) ws

def maxSplits : Nat := 1000

def readSwitches (inherited : List (String × String)) :
    (splits : Nat) → Change → List String → Except Fault (Change × List String)
  | 0, c, words => (switches c words).map fun (c, _, ws) => (c, ws)
  | splits + 1, c, words => do
    match ← switches c words with
    | (c, .none, ws) => .ok (c, ws)
    | (c, some text, ws) =>
      let (front, notes) ← (Split.words inherited text).mapError .unsplit
      readSwitches inherited splits (c.note (notes ++ [.parted text front])) (front ++ ws)

def Change.left (c : Change) (inherited : List (String × String)) : List (String × String) :=
  if c.emptied then [] else inherited.filter (! c.removed.contains ·.1)

def read (inherited : List (String × String)) (words : List String) : Except Fault EnvLine := do
  match ← readSwitches inherited maxSplits .none words with
  | (c, "-" :: ws) => return operands { c with emptied := true } [] ws
  | (c, ws) => return operands c (c.left inherited) ws

theorem setting?_eq_none {word : String} (h : '=' ∉ word.toList) : setting? word = none := by
  have h' : ∀ l : List Char, '=' ∉ l → l.dropWhile (· ≠ '=') = [] := by
    intro l hl
    induction l with
    | nil => rfl
    | cons c cs ih =>
      have hc : c ≠ '=' := fun hc => hl (hc ▸ List.mem_cons_self ..)
      simpa [hc] using ih fun hcs => hl (List.mem_cons_of_mem c hcs)
  simp only [setting?, h' _ h]

end EnvLine

end RootedRun.Tool
