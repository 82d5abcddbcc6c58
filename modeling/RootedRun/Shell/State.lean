import RootedRun.Shell.Reading
import RootedRun.Shell.Variables
import RootedRun.Task.Basic
import RootedRun.Tool.Basic
import RootedRun.Tool.Numeral

namespace RootedRun.Shell

/-- Why the rest of a script is passed over without being stopped: a loop is left or started again,
so many of them at once, or a function or a file of commands is left, with a status that is `given`
or not. -/
inductive Skip
  | leave (loops : Nat)
  | again (loops : Nat)
  | back (given : Bool)
  deriving DecidableEq

structure Job where
  processes : List (Nat × Option Exit)
  waited : Bool

namespace Job

def isDone (j : Job) : Bool := j.processes.all (·.2.isSome)

def record (j : Job) (pid : Nat) (e : Exit) : Job :=
  { j with processes := j.processes.map fun p => if p.1 = pid then (pid, p.2.or (some e)) else p }

def has (j : Job) (pid : Nat) : Bool := j.processes.any (·.1 = pid)

end Job

def statusOf : Exit → Nat
  | .code n => n
  | .signal n => 128 + n

def Job.status (j : Job) : Nat :=
  match j.processes.getLast? with
  | some (_, some e) => statusOf e
  | _ => 0

inductive Local
  | ofVariable (name : String) (old : Option Variable)
  | options (old : List Char)

structure Arguments where
  words : List String
  next : Nat
  inside : Option Nat

def Arguments.ofWords (words : List String) : Arguments := ⟨words, 1, none⟩

structure Track where
  index : Nat
  stale : Bool

/-- `tracks` tells where programs were found, and `docs` are the documents that were read. `saved`
is the status that counts when the script ends inside an action, `substituted` that of the last
script in a word. `depth` counts functions that run inside one another. The job that was started
last comes first; each has a number. `due` are caught signals whose actions have not been run;
`known` are the signals whose reaction has been set, and `fixed` those that stay ignored. `apart`
tells that a part of the script runs here, in a process of its own. `complaining` is the command
that speaks, and `line` is where that is in its text. `place` is the current directory by the way
that led there. `tracing` tells that a command is being told of, `patient` that an interruption is
put off as long as something is waited for, `attended` that signals do what they do where somebody
sits at the other end, `atEnd` that the end of a text is the next token to be read, and `undecided`
are the options that nobody has set before the script starts. `mail` tells when files have changed
that are looked at for mail, and `mailMoved` that others are to be looked at. -/
structure State where
  name : String
  args : Arguments
  vars : Variables
  functions : List (String × Script)
  aliases : List (String × String)
  tracks : List (String × Track)
  docs : Array Word
  options : List Char
  status : Nat
  saved : Option Nat
  substituted : Nat
  skip : Option Skip
  loops : Nat
  depth : Nat
  pid : Nat
  apart : Bool
  lastPid : Option Nat
  jobs : List (Nat × Job)
  traps : List (Nat × String)
  due : List Nat
  known : List Nat
  fixed : List Nat
  locals : List (List Local)
  complaining : Option String
  line : Nat
  place : String
  tracing : Bool
  patient : Bool
  attended : Bool
  atEnd : Bool
  undecided : List Char
  mail : List (Option Nat)
  mailMoved : Bool

inductive Stop
  | fault
  | interrupt
  | exit
  | done
  deriving DecidableEq

abbrev Sh := ExceptT Stop (StateT State Act)

namespace Sh

def act (x : Act α) : Sh α := (x : StateT State Act α)

def ask (r : Task.Request) : Sh r.Answer := act (Act.ask r)

def repeatFrom (s : σ) (step : σ → Sh (σ ⊕ α)) : Sh α :=
  Bounded.loop (act Act.stall) step Bounded.endless s

def setStatus (n : Nat) : Sh Unit := modify fun st => { st with status := n }

def complaint (st : State) (message : String) : String :=
  st.name ++ ": " ++ toString st.line ++ ": "
    ++ ((st.complaining.map (· ++ ": ")).getD "") ++ message ++ "\n"

def complain (message : String) : Sh Unit := do
  discard (act (Tool.put 2 (complaint (← get) message)))

def stop (s : Stop) : Sh α := throw s

def fail (message : String) : Sh α := do
  complain message
  setStatus 2
  stop .fault

def failWith (status : Nat) (message : String) : Sh α := do
  complain message
  setStatus status
  stop .fault

def say (text : String) : Sh Nat := do
  match ← act (Tool.put 1 text) with
  | .ok () => return 0
  | .error _ =>
    complain (((← get).complaining.getD "") ++ ": I/O error")
    return 1

def pipe : Sh (Nat × Nat) := do
  match ← ask .pipe with
  | .ok ends => return ends
  | .error _ => fail "Pipe call failed"

def moved (fd : Nat) : Sh (Option Nat) := do
  match ← ask (.duplicate fd Task.leastPrivate) with
  | .ok copy =>
    ask (.close fd)
    return some copy
  | .error .badDescriptor => return none
  | .error f =>
    ask (.close fd)
    fail (toString fd ++ ": " ++ f.text)

def caught (x : Sh α) : Sh (Except Stop α) := (x.run : StateT State Act (Except Stop α))

def thenAlways (x : Sh α) (after : Sh Unit) : Sh α := do
  let a ← caught x
  after
  MonadExcept.ofExcept a

def complainOn (line : Nat) (message : String) : Sh Unit := do
  modify fun st => { st with line }
  complain message

def getVar (name : String) : Sh (Option String) := return (← get).vars.get? name

def number (word : String) : Sh Nat :=
  match Tool.Numeral.whole? word with
  | some n =>
    if 0 ≤ n ∧ n ≤ 2147483647 then return n.toNat else fail ("Illegal number: " ++ word)
  | none => fail ("Illegal number: " ++ word)

def follow (name value : String) : Sh Unit := do
  if name = "PATH" then modify fun st => { st with tracks := [] }
  if name = "MAIL" ∨ name = "MAILPATH" then modify fun st => { st with mailMoved := true }
  if name = "OPTIND" then
    let n ← number value
    modify fun st => { st with args := { st.args with next := max 1 n, inside := none } }

def setVar (name value : String) : Sh Unit := do
  let st ← get
  if ¬ isName name then fail (name ++ ": bad variable name")
  if st.vars.isLocked name then fail (name ++ ": is read only")
  follow name value
  modify fun st =>
    let vars := st.vars.set name value
    { st with vars := if st.options.contains 'a' then vars.mark .exported name else vars }

def markVar (a : Attribute) (name : String) : Sh Unit :=
  modify fun st => { st with vars := st.vars.mark a name }

def unsetVar (name : String) : Sh Unit := do
  let st ← get
  if ¬ isName name then fail (name ++ ": bad variable name")
  if st.vars.isLocked name then fail (name ++ ": is read only")
  if (st.vars.find? name).isSome then follow name ""
  modify fun st => { st with vars := st.vars.unset name }

def isOn (option : Char) : Sh Bool := return (← get).options.contains option

end Sh

end RootedRun.Shell
