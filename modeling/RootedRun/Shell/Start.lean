import RootedRun.Shell.Evaluate

namespace RootedRun.Shell

structure Start where
  isLogin : Bool
  text : Option String
  fd : Option Nat

namespace Start

def state (name : String) (pid : Nat) : State where
  name := name
  args := .ofWords []
  vars := .initial
  functions := []
  aliases := []
  tracks := []
  docs := #[]
  options := []
  status := 0
  saved := none
  substituted := 0
  skip := none
  loops := 0
  depth := 0
  pid := pid
  apart := false
  lastPid := none
  jobs := []
  traps := []
  due := []
  known := []
  fixed := []
  locals := []
  complaining := none
  line := 0
  place := ""
  tracing := false
  patient := false
  attended := false
  atEnd := false
  undecided := Builtin.options.map (·.2)
  mail := []
  mailMoved := true

def inherit (env : List (String × String)) (vs : Variables) : Variables :=
  env.foldl (fun vs (name, value) =>
    if isName name then (vs.set name value).mark .exported name else vs) vs

def findPlace : Sh Unit := do
  let real ← Builtin.realPlace
  let place ← match ← Sh.getVar "PWD" with
    | none => pure real
    | some p => do
      if ¬ p.startsWith "/" then pure real
      else match ← Sh.ask (.look p true) with
        | .error _ => pure real
        | .ok info => pure (if "/" ++ String.intercalate "/" info.place = real then p else real)
  Builtin.setPlace place false

def settle (env : List (String × String)) (parent : Nat) : Sh Unit := do
  (env.lookup "OPTIND").forM fun n => discard (Sh.number n)
  modify fun st => { st with vars := ((((inherit env st.vars).set "IFS" Variables.blanks).set
    "OPTIND" "1").set "PPID" (toString parent)) }
  findPlace

def textLetter : Char := 'c'

def loginLetter : Char := 'l'

def options : (fuel : Nat) → (given : List Char) → List String → Sh (List Char × List String)
  | 0, given, ws => return (given, ws)
  | _, given, [] => return (given, [])
  | fuel + 1, given, w :: ws => do
    let inner := [textLetter, loginLetter]
    let take (on : Bool) (cs : List Char) : Sh (List Char × List String) := do
      options fuel (given ++ cs.filter inner.contains) (← Builtin.takeOptions on inner cs ws)
    match w.toList with
    | ['-'] | ['-', '-'] => return (given, ws)
    | '-' :: cs => take true cs
    | '+' :: cs => take false cs
    | _ => return (given, w :: ws)

def called (name : String) (words : List String) : Sh Unit :=
  modify fun st => { st with name, args := .ofWords words }

def decide : Sh Unit := do
  let st ← get
  if st.options.contains 'i' ∧ st.undecided.contains 'm' then Builtin.setOption true 'm'
  modify fun st => { st with undecided := [] }

def defer : Sh Unit := do
  modify fun st => { st with patient := true }
  let st ← get
  Actions.react Actions.interruption (Actions.withoutAction st Actions.interruption)

def read (words : List String) : Sh Start := do
  let (given, words) ← options (words.length + 1) [] words
  let ofText := given.contains textLetter
  if words.isEmpty then
    if ofText then Sh.fail "-c requires an argument"
    Builtin.setOption true 's'
  decide
  let input ← Sh.isOn 's'
  if ofText ∨ ¬ input then defer
  let isLogin := given.contains loginLetter || (← get).name.startsWith "-"
  let start (text : Option String) (fd : Option Nat) : Sh Start := do
    Builtin.settleOptions
    return ⟨isLogin, text, fd⟩
  match ofText, words with
  | true, s :: name :: words =>
    called name words
    start (some s) (if input then some 0 else none)
  | true, words => start words.head? (if input then some 0 else none)
  | false, path :: args =>
    if input then
      modify fun st => { st with args := .ofWords (path :: args) }
      return ← start none (some 0)
    let fd ← Builtin.moveAway (← Builtin.openScript path)
    called path args
    start none (some fd)
  | false, [] => start none (some 0)

def recovered (x : Sh Unit) : Sh Bool := do
  match ← Sh.caught x with
  | .ok () => return true
  | .error e =>
    let st ← get
    let isAttended := st.options.contains 'i' && ! st.apart
    if ! isAttended || e = .exit || e = .done then throw e
    set { st with skip := none, saved := none, loops := 0, depth := 0, tracing := false, due := [] }
    Builtin.bringBackTo 0 (st.locals.length + 1)
    if e = .interrupt then Evaluate.tellAttended "\n"
    return false

def welcome (path : String) : Sh Unit := do
  match ← Sh.ask (.open (← evaluator.quoted path) .read) with
  | .error _ => pure ()
  | .ok fd =>
    let fd ← Builtin.moveAway fd
    Sh.thenAlways (discard (evaluator.source false fd)) (Sh.ask (.close fd))

def run (s : Start) : Sh Unit := do
  if s.isLogin then
    ["/etc/profile", "$HOME/.profile"].forM fun p => discard (recovered (welcome p))
  if ← Sh.isOn 'i' then
    (← Sh.getVar "ENV").forM fun p => unless p = "" do discard (recovered (welcome p))
  let isDone ← match s.text with
    | some t => recovered (discard (evaluator.text false t))
    | none => pure true
  let fd? := if isDone then s.fd else some (s.fd.getD 0)
  fd?.forM fun fd => Sh.repeatFrom () fun _ => do
    return if ← recovered (discard (evaluator.source true fd)) then .inr () else .inl ()

end Start

def program : Tool.Program := fun c => do
  let (pid, parent) ← Act.ask .family
  let body : Sh Unit := do
    Fork.react Actions.ofChildren .usual
    Start.settle c.env parent
    Start.called c.name []
    Start.run (← Start.read c.args)
  Actions.whole evaluator body (Start.state "sh" pid)

end RootedRun.Shell
