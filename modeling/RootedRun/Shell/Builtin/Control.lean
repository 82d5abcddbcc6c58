import RootedRun.Shell.Programs

namespace RootedRun.Shell.Builtin

def jump (skip : Nat → Skip) : Builtin := fun _ _ args => do
  let n ← match args with
    | [] => pure 1
    | a :: _ => do
      let n ← Sh.number a
      if n = 0 then Sh.fail ("Illegal number: " ++ a)
      pure n
  modify fun st =>
    match min n st.loops with
    | 0 => st
    | n => { st with skip := some (skip n) }
  return 0

def returning : Builtin := fun _ _ args => do
  match args with
  | [] =>
    modify fun st => { st with skip := some (.back false) }
    return (← get).status
  | a :: _ =>
    let n ← Sh.number a
    modify fun st => { st with skip := some (.back true) }
    return n

def exit : Builtin := fun _ _ args => do
  args.head?.forM fun a => do
    let n ← Sh.number a
    modify fun st => { st with saved := some n }
  Sh.stop .exit

def eval : Builtin := fun r tested args =>
  if args.isEmpty then return 0
  else r.text tested (String.intercalate " " args)

def firstFile : List String → Sh (Option String)
  | [] => return none
  | p :: ps => do
    match ← Sh.ask (.look p true) with
    | .ok info => if info.kind = .file then return some p else firstFile ps
    | .error _ => firstFile ps

def fileOf (name : String) : Sh String := do
  if name.contains '/' then return name
  let es := (Programs.entries (← Programs.path)).filter (·.use ≠ .builtins)
  match ← firstFile (es.map (·.location name)) with
  | some p => return p
  | none => Sh.fail (name ++ ": not found")

def dot : Builtin := fun r _ args => do
  match ← noSwitches args with
  | [] => return 0
  | name :: _ =>
    let path ← fileOf name
    withScript path fun fd => do
      modify fun st => { st with complaining := path }
      r.source false fd

def exec : Builtin := fun _ _ args => do
  if args.isEmpty then return 0
  Programs.become (← Programs.pathsOf (args.headD "")) args

def succeed : Builtin := fun _ _ _ => return 0

def fail : Builtin := fun _ _ _ => return 1

def times : Builtin := fun _ _ _ => do
  let spent : String := "0m0.000000s 0m0.000000s\n"
  Sh.say (spent ++ spent)

end RootedRun.Shell.Builtin
