import RootedRun.Shell.Actions
import RootedRun.Shell.Builtin.Basic

namespace RootedRun.Shell.Builtin

def definition (command : String) (v : Variable) : String :=
  (if command = "" then "" else command ++ " ") ++ v.name
    ++ ((v.value.map fun s => "=" ++ singleQuoted s).getD "") ++ "\n"

def marked (a : Attribute) (command : String) : Sh Nat := do
  Sh.say (String.join (((← get).vars.sorted (Variables.has a)).map (definition command)))

def mark (a : Attribute) (command : String) : Builtin := fun _ _ args => do
  let (switches, names) ← switches "p" "" args
  if ¬ switches.isEmpty ∨ names.isEmpty then marked a command
  else
    names.forM fun arg => do
      let (name, value) := setting arg
      if ¬ isName name then Sh.fail (name ++ ": bad variable name")
      value.forM (Sh.setVar name)
      Sh.markVar a name
    return 0

def localize (name : String) (value : Option String) (exported : Bool) : Sh Unit := do
  let st ← get
  match st.locals with
  | [] => Sh.fail "not in a function"
  | l :: ls =>
    if ¬ isName name then
      if value.isNone then Sh.fail (name ++ ": bad variable name")
      set { st with locals := (.ofVariable name none :: l) :: ls }
      return
    let old := st.vars.find? name
    let vars := st.vars.change (fun v => { v with fixed := true }) name
    set { st with vars, locals := (.ofVariable name old :: l) :: ls }
    value.forM (Sh.setVar name)
    if exported then Sh.markVar .exported name

def localizeOptions : Sh Unit :=
  modify fun st => match st.locals with
    | [] => st
    | l :: ls => { st with locals := (.options st.options :: l) :: ls }

def locals : Builtin := fun _ _ args => do
  if (← get).locals.isEmpty then Sh.fail "not in a function"
  args.forM fun arg =>
    if arg = "-" then localizeOptions
    else
      let (name, value) := setting arg
      localize name value false
  return 0

def bringBack : Local → Sh Unit
  | .options old => modify fun st => { st with options := old }
  | .ofVariable name old => do
    if ¬ isName name then Sh.fail (name ++ ": bad variable name")
    old.forM fun v => Sh.follow name (v.value.getD "")
    modify fun st => { st with vars := st.vars.restore name old }

def bringBackTo (places : Nat) : (fuel : Nat) → Sh Unit
  | 0 => pure ()
  | fuel + 1 => do
    let st ← get
    match st.locals with
    | [] => pure ()
    | l :: ls =>
      if places < st.locals.length then
        set { st with locals := ls }
        l.forM bringBack
        bringBackTo places fuel

def withLocals (body : Sh α) : Sh α := do
  let st ← get
  set { st with locals := [] :: st.locals }
  let a ← body
  bringBackTo st.locals.length (← get).locals.length
  return a

def unset : Builtin := fun _ _ args => do
  let (switches, names) ← switches "vf" "" args
  let ofFunctions := (switches.getLast?.map (·.1)) = some 'f'
  names.forM fun name =>
    if ofFunctions then
      modify fun st => { st with functions := st.functions.filter (·.1 ≠ name) }
    else Sh.unsetVar name
  return 0

def shift : Builtin := fun _ _ args => do
  let n ← match args with
    | [] => pure 1
    | a :: _ => Sh.number a
  let words := (← get).args.words
  if words.length < n then Sh.fail "can't shift that many"
  modify fun st => { st with args := .ofWords (words.drop n) }
  return 0

def options : List (String × Char) :=
  [("errexit", 'e'), ("noglob", 'f'), ("ignoreeof", 'I'), ("interactive", 'i'), ("monitor", 'm'),
    ("noexec", 'n'), ("stdin", 's'), ("xtrace", 'x'), ("verbose", 'v'), ("vi", 'V'),
    ("emacs", 'E'), ("noclobber", 'C'), ("allexport", 'a'), ("notify", 'b'), ("nounset", 'u'),
    ("privileged", 'p'), ("nolog", '\x01'), ("debug", '\x02')]

def setOption (on : Bool) (c : Char) : Sh Unit :=
  modify fun st =>
    let others := st.options.filter (· ≠ c)
    let others := if ¬ on then others else match c with
      | 'V' => others.filter (· ≠ 'E')
      | 'E' => others.filter (· ≠ 'V')
      | _ => others
    { st with
      options := if on then c :: others else others
      undecided := st.undecided.filter (· ≠ c) }

def setLetter (on : Bool) (c : Char) : Sh Unit := do
  if c.isAlpha ∧ options.any (·.2 = c) then setOption on c
  else Sh.fail ("Illegal option -" ++ String.singleton c)

def setNamed (on : Bool) (name : String) : Sh Unit := do
  match options.lookup name with
  | some c => setOption on c
  | none => Sh.fail ("Illegal option -o " ++ name)

def padded (n : Nat) (s : String) : String :=
  s ++ String.ofList (List.replicate (n - s.length) ' ')

def tellOptions (forReaders : Bool) : Sh Unit := do
  let st ← get
  let on := st.options ++ st.undecided
  let line (o : String × Char) : String :=
    if forReaders then padded 16 o.1 ++ (if on.contains o.2 then "on" else "off") ++ "\n"
    else "set " ++ (if on.contains o.2 then "-o " else "+o ") ++ o.1 ++ "\n"
  discard (Sh.say ((if forReaders then "Current option settings\n" else "")
    ++ String.join (options.map line)))

def takeOptions (on : Bool) (inner : List Char) : List Char → List String → Sh (List String)
  | [], rest => return rest
  | 'o' :: cs, [] => do
    tellOptions on
    takeOptions on inner cs []
  | 'o' :: cs, name :: rest => do
    setNamed on name
    takeOptions on inner cs rest
  | c :: cs, rest => do
    unless inner.contains c do setLetter on c
    takeOptions on inner cs rest

def settleOptions : Sh Unit := do
  if (← Sh.isOn 'm') ∧ ¬ (← get).apart then
    Sh.complain "can't access tty; job control turned off"
    setOption false 'm'
  Actions.attend

def readOptions : (fuel : Nat) → List String → Sh (Option (List String))
  | 0, _ | _, [] => return none
  | fuel + 1, w :: ws => do
    match w.toList with
    | ['-'] =>
      setOption false 'x'
      setOption false 'v'
      return if ws.isEmpty then none else some ws
    | ['-', '-'] => return some ws
    | '-' :: cs => readOptions fuel (← takeOptions true [] cs ws)
    | '+' :: cs => readOptions fuel (← takeOptions false [] cs ws)
    | _ => return some (w :: ws)

def setWords : Builtin := fun _ _ args => do
  if args.isEmpty then
    Sh.say (String.join
      (((← get).vars.sorted (·.value.isSome)).map (definition "")))
  else
    let words ← readOptions (args.length + 1) args
    settleOptions
    words.forM fun words => modify fun st => { st with args := .ofWords words }
    return 0

end RootedRun.Shell.Builtin
