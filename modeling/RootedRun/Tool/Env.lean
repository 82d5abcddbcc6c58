import RootedRun.Tool.Basic
import RootedRun.Tool.EnvLine
import RootedRun.Tool.Shown

namespace RootedRun.Tool

namespace Env

def misused : Nat := 125

def statusOf (e : OsError) : Nat := if e = .notFound then 127 else 126

def setting (v : String × String) : String := v.1 ++ "=" ++ v.2

def tell (told : Bool) (text : String) : Act Unit :=
  if told then discard (put 2 text) else pure ()

def forget (c : Call) (told : Bool) : List String → Act Bool
  | [] => return true
  | n :: ns => do
    tell told ("unset:    " ++ n ++ "\n")
    if n = "" ∨ n.contains '=' then
      c.complain ("cannot unset " ++ c.quoted n ++ ": Invalid argument")
      return false
    else forget c told ns

def titled (n : Nat) : String := Signals.nameOf n ++ " (" ++ toString n ++ ")"

def react (c : Call) (told : Bool) : List EnvLine.Demand → Act Bool
  | [] => return true
  | d :: ds => do
    let isFixed := Signals.fixed.contains d.signal
    if isFixed ∧ ¬ d.wished then
      c.complain ("failed to set signal action for signal " ++ toString d.signal
        ++ ": Invalid argument")
      return false
    unless isFixed do
      discard (Act.ask (.react d.signal (some (if d.ignores then .ignore else .usual))))
    tell told ("Reset signal " ++ titled d.signal ++ " to "
      ++ (if d.ignores then "IGNORE" else "DEFAULT")
      ++ (if isFixed then " (failure ignored)\n" else "\n"))
    react c told ds

def block (told : Bool) (changes : List (Nat × Bool)) : Act Unit := do
  tell told (String.join (changes.map fun (n, blocks) =>
    "signal " ++ titled n ++ " mask set to " ++ (if blocks then "BLOCK" else "UNBLOCK") ++ "\n"))
  let before ← Act.ask (.block none)
  let kept := before.filter fun n => (changes.lookup n).isNone
  discard (Act.ask (.block (some (kept ++ (changes.filter (·.2)).map (·.1)))))

def padded (least : Nat) (s : String) : String :=
  String.ofList (List.replicate (least - s.length) ' ')

def tellHandling (blocked : List Nat) : List (Nat × String) → Act Unit
  | [] => pure ()
  | (n, name) :: ns => do
    let isIgnored := (← Act.ask (.react n none)) = .ignore
    let words := (if blocked.contains n then ["BLOCK"] else [])
      ++ (if isIgnored then ["IGNORE"] else [])
    unless words.isEmpty do
      let number := toString n
      discard (put 2 (name ++ padded 10 name ++ " (" ++ padded 2 number ++ number ++ "): "
        ++ String.intercalate "," words ++ "\n"))
    tellHandling blocked ns

def enter (c : Call) (told : Bool) (dir : String) : Act Bool := do
  tell told ("chdir:    " ++ c.enclosed dir ++ "\n")
  match ← Act.ask (.enter dir) with
  | .ok () => return true
  | .error e =>
    c.complain ("cannot change directory to " ++ c.enclosed dir ++ ": " ++ e.text)
    return false

def account (c : Call) (i : Invocation) : String :=
  "executing: " ++ i.program ++ "\n" ++ String.join ((i.program :: i.args).mapIdx fun n a =>
    "   arg[" ++ toString n ++ "]= " ++ c.quoted a ++ "\n")

def hint : String := "use -[v]S to pass options in shebang lines"

def start (c : Call) (line : EnvLine) (i : Invocation) : Act Nat := do
  let told := line.change.told
  let demands := line.change.demands.mergeSort fun a b => a.signal ≤ b.signal
  unless ← react c told demands do return misused
  let blocks := line.change.blocks.mergeSort fun a b => a.1 ≤ b.1
  unless blocks.isEmpty do block told blocks
  if line.change.listed then tellHandling (← Act.ask (.block none)) Signals.named
  if let some d := line.change.dir then
    unless ← enter c told d do return misused
  tell told (account c i)
  let e ← Act.exec (line.vars.lookup "PATH") i.program i.words line.vars
  c.complain (c.quoted i.program ++ ": " ++ e.text)
  if e = .notFound ∧ i.program.toList.any Split.isBlank then c.complain hint
  return statusOf e

def run (c : Call) (line : EnvLine) : Act Nat := do
  let told := line.change.told
  tell told (String.join (line.change.notes.map (·.text c.charset)))
  if line.change.emptied then tell told "cleaning environ\n"
  else unless ← forget c told line.change.removed do return misused
  tell told (String.join (line.sets.map fun s => "setenv:   " ++ s ++ "\n"))
  match line.utility with
  | some i =>
    if line.change.ofNuls then c.refuse "cannot specify --null (-0) with command" misused
    else start c line i
  | none =>
    if line.change.dir.isSome then c.refuse "must specify command with --chdir (-C)" misused
    else
      let ending := if line.change.ofNuls then "\x00" else "\n"
      let status ← c.say (String.join (line.vars.map fun v => setting v ++ ending)) 0
      return if status = 0 then 0 else misused

def refuse (c : Call) : EnvLine.Fault → Act Nat
  | .misused p => do
    match p with
    | .unknownLetter l =>
      if Split.isBlank l then
        c.complain p.text
        c.refuse hint misused
      else c.turnDown p misused
    | p => c.turnDown p misused
  | .unknownSignal s => c.refuse (c.quoted s ++ ": invalid signal") misused
  | .unsplit f => do
    c.complain f.text
    return misused

end Env

def env : Program := fun c =>
  match EnvLine.read c.env c.args with
  | .error e => Env.refuse c e
  | .ok line => Env.run c line

end RootedRun.Tool
