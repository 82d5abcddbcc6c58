import RootedRun.Shell.Actions
import RootedRun.Shell.Builtin.Basic
import RootedRun.Shell.Jobs

namespace RootedRun.Shell.Builtin

def jobs : Builtin := fun _ _ args => do
  let (switches, words) ← switches "lp" "" args
  Jobs.collect
  let numbers ← if words.isEmpty then pure ((← get).jobs.map (·.1)) else words.mapM Jobs.named
  let told ← numbers.filterMapM fun n => do
    let now := (← get).jobs
    match now.lookup n with
    | none => return none
    | some j =>
      if j.isDone then Jobs.drop n
      return some (if (switches.getLast?.map (·.1)) = some 'p' then
          toString ((j.processes.map (·.1)).headD 0) ++ "\n"
        else Jobs.account now (has switches 'l') n j)
  Sh.say (String.join told)

def awaited (word : String) : Sh (Option Nat) := do
  if word.startsWith "%" then return some (← Jobs.named word)
  let pid ← Sh.number word
  return ((← get).jobs.find? fun (_, j) => (j.processes.getLast?.map (·.1)) = some pid).map (·.1)

def waitFor (status : Nat) : List String → Sh Nat
  | [] => return status
  | w :: ws => do
    match ← awaited w with
    | none => waitFor status ws
    | some n =>
      match ← Jobs.await n with
      | some signal => return 128 + signal
      | none =>
        Jobs.markWaited n
        waitFor (((← Jobs.find? n).map (·.status)).getD status) ws

def wait : Builtin := fun _ _ args => do
  let words ← noSwitches args
  let status ← if words.isEmpty then do
      match ← Jobs.awaitAll with
      | some signal => pure (128 + signal)
      | none => pure 0
    else waitFor 127 words
  Actions.notice
  return status

def resume : Builtin := fun _ _ args => do
  let words ← noSwitches args
  let word := words.headD "%"
  discard (Jobs.named word)
  Sh.fail ("job " ++ words.headD "(null)" ++ " not created under job control")

def killUsage : String :=
  "Usage: kill [-s sigspec | -signum | -sigspec] [pid | job]... or\nkill -l [exitstatus]"

def listSignals : List String → Sh Nat
  | [] => Sh.say ("0\n" ++ String.join ((Signal.names.drop 1).map (· ++ "\n")))
  | a :: _ => do
    let n ← Sh.number a
    let n := if 128 < n then n - 128 else n
    match if n = 0 then none else Signal.names[n]? with
    | some name => Sh.say (name ++ "\n")
    | none => Sh.fail ("invalid signal number or exit status: " ++ a)

def killOptions (args : List String) : Sh (Bool × Option Nat × List String) := do
  match args with
  | w :: ws =>
    if ¬ w.startsWith "-" then return (false, none, args)
    match Signal.ofText? 1 (w.drop 1).copy with
    | some n => return (false, some n, ws)
    | none =>
      let (switches, words) ← switches "l" "s" args
      let signals ← switches.filterMapM fun
        | ('s', some name) =>
          match Signal.ofText? 1 name with
          | some n => pure (some n)
          | none => Sh.fail ("invalid signal number or name: " ++ name)
        | _ => pure none
      return (has switches 'l', signals.getLast?, words)
  | [] => return (false, none, [])

def send (signal : Nat) (word : String) : Sh Bool := do
  if word.startsWith "%" then
    discard (Jobs.named word)
    return false
  if word.startsWith "-" then
    discard (Sh.number (word.drop 1).copy)
    return false
  Sh.ask (.kill (← Sh.number word) signal)

def kill : Builtin := fun _ _ args => do
  let (lists, signal, words) ← killOptions args
  if args.isEmpty ∨ (signal.isSome ∧ lists) ∨ (words.isEmpty ∧ ¬ lists) then Sh.fail killUsage
  if lists then return ← listSignals words
  let sent ← words.mapM fun w => do
    let isSent ← send (signal.getD 15) w
    unless isSent do Sh.complain "No such process\n"
    Actions.notice
    return isSent
  return if sent.all id then 0 else 1

def setAction (action : Option String) (signal : Nat) : Sh Unit := do
  modify fun st =>
    let others := st.traps.filter (·.1 ≠ signal)
    { st with traps := others ++ (action.map (signal, ·)).toList }
  let st ← get
  Actions.react signal (match action with
    | none => Actions.withoutAction st signal
    | some "" => .ignore
    | some _ => .catch)

def setActions (action : Option String) : List String → Sh Nat
  | [] => return 0
  | w :: ws => do
    match Signal.ofText? 0 w with
    | none =>
      discard (Sh.act (Tool.put 2 ("trap: " ++ w ++ ": bad trap\n")))
      return 1
    | some signal =>
      setAction action signal
      setActions action ws

def tellActions : Sh Nat := do
  let traps := (← get).traps.mergeSort fun a b => a.1 ≤ b.1
  Sh.say (String.join (traps.map fun (signal, action) =>
    "trap -- " ++ singleQuoted action ++ " " ++ Signal.names.getD signal "" ++ "\n"))

def trap : Builtin := fun _ _ args => do
  match ← noSwitches args with
  | [] => tellActions
  | [w] => setActions none [w]
  | w :: ws =>
    if (Tool.Numeral.decimal? w).isSome ∧ (Signal.ofText? 0 w).isSome then
      setActions none (w :: ws)
    else setActions (if w = "-" then none else some w) ws

def isAll (mask bits : Nat) : Bool := mask &&& bits = bits

def rights (mask : Nat) : String :=
  (if isAll mask 4 then "" else "r") ++ (if isAll mask 2 then "" else "w")
    ++ (if isAll mask 1 then "" else "x")

def octal (n : Nat) : String := String.ofList (Nat.toDigits 8 n)

def tellMask (inWords : Bool) (mask : Nat) : String :=
  if inWords then
    "u=" ++ rights (mask / 64) ++ ",g=" ++ rights (mask / 8) ++ ",o=" ++ rights mask ++ "\n"
  else
    let s := octal mask
    String.ofList (List.replicate (4 - s.length) '0') ++ s ++ "\n"

def allowed (before : Nat) : Char → Nat
  | 'r' => 4
  | 'w' => 2
  | 'x' => 1
  | 'X' => if before &&& 73 = 0 then 0 else 1
  | 'u' => before / 64
  | 'g' => before / 8
  | 'o' => before
  | _ => 0

def position : Char → Nat
  | 'a' => 73
  | 'u' => 64
  | 'g' => 8
  | _ => 1

def changed (before : Nat) : (fuel now users : Nat) → List Char → Option Nat
  | 0, _, _, _ => none
  | _, now, _, [] => some now
  | fuel + 1, now, users, cs =>
    let named := cs.takeWhile "augo".toList.contains
    let users := named.foldl (fun n c => n ||| position c) users
    let users := if users = 0 then 73 else users
    match cs.dropWhile "augo".toList.contains with
    | [] => none
    | op :: cs =>
      if ¬ "=+-".toList.contains op then none
      else
        let asked := cs.takeWhile "rwxugoXs".toList.contains
        let n := ((asked.foldl (fun n c => n ||| allowed before c) 0) &&& 7) * users
        let all := users * 7
        let now := match op with
          | '-' => now &&& (511 - n &&& 511)
          | '=' => n ||| (now &&& (511 - all &&& 511))
          | _ => now ||| n
        match cs.dropWhile "rwxugoXs".toList.contains with
        | [] => some now
        | ',' :: cs => changed before fuel now 0 cs
        | c :: cs =>
          if "=+-".toList.contains c then changed before fuel now users (c :: cs) else none

def maskOf (before : Nat) (word : String) : Sh Nat := do
  match word.toList with
  | [] => return before
  | c :: cs =>
    if c.isDigit then
      if (c :: cs).all Tool.Numeral.isOctal then return Tool.Numeral.value 8 (c :: cs) &&& 511
      else Sh.fail ("Illegal number: " ++ word)
    else
      let allowed := 511 - (before &&& 511)
      match changed allowed (word.length + 1) allowed 0 (c :: cs) with
      | some n => return 511 - (n &&& 511)
      | none => Sh.fail ("Illegal mode: " ++ word)

def umask : Builtin := fun _ _ args => do
  let (switches, words) ← switches "S" "" args
  let mask ← Sh.ask (.mask none)
  match words with
  | [] => Sh.say (tellMask (¬ switches.isEmpty) mask)
  | w :: _ =>
    discard (Sh.ask (.mask (some (← maskOf mask w))))
    return 0

end RootedRun.Shell.Builtin
