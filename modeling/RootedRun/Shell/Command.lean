import RootedRun.Shell.Builtin.Table
import RootedRun.Shell.Redirect

namespace RootedRun.Shell

/-- A command while its words are expanded: those that are there, and those that are still to be.
`passed` are words before them that only asked for it. `builtin` is the command of the script itself
that it names so far, and `isSpecial` is decided by the first one. With `direct` functions are
passed over, and `standard` asks for the usual programs. -/
structure Plan where
  passed : List String
  words : List String
  rest : List Word
  builtin : Option String
  isSpecial : Option Bool
  direct : Bool
  standard : Bool

namespace Plan

def start (rest : List Word) : Plan := ⟨[], [], rest, none, none, false, false⟩

def firstFields (r : Runner) : List Word → Sh (List String × List Word)
  | [] => return ([], [])
  | w :: ws => do
    match ← Expand.fields r w with
    | [] => firstFields r ws
    | fields => return (fields, ws)

def reach (r : Runner) (p : Plan) (n : Nat) : Sh Plan := do
  if n < p.words.length then return p
  let (fields, rest) ← firstFields r p.rest
  return { p with words := p.words ++ fields, rest }

def pass (p : Plan) (n : Nat) : Plan :=
  { p with passed := p.passed ++ p.words.take n, words := p.words.drop n }

def runs? (word : String) : Option Bool :=
  match word.toList with
  | '-' :: c :: cs => if (c :: cs).all (· = 'p') then some true else none
  | _ => some false

def behind (r : Runner) (p : Plan) : Sh (Plan ⊕ Plan) :=
  Sh.repeatFrom (p, 1) fun (p, n) => do
    let p' ← reach r p n
    match p'.words[n]? with
    | none => return .inr (.inr p')
    | some "--" =>
      let p'' ← reach r p' (n + 1)
      return .inr (if n + 1 < p''.words.length then
          .inl (pass p'' (n + 1))
        else .inr p'')
    | some w =>
      match runs? w with
      | none => return .inr (.inr p')
      | some true => return .inl ({ p' with standard := true }, n + 1)
      | some false => return .inr (.inl (pass p' n))

def classify (r : Runner) (rest : List Word) : Sh Plan := do
  let p ← reach r (start rest) 0
  Sh.repeatFrom p fun p => do
    match p.words with
    | [] => return .inr p
    | name :: _ =>
      if (! p.direct && ((← get).functions.lookup name).isSome) || ! (← Programs.isOwn name) then
        return .inr { p with builtin := none }
      let p := { p with
        builtin := some name
        isSpecial := p.isSpecial.or (some (Builtin.isSpecial name)) }
      if name ≠ "command" then return .inr p
      match ← behind r p with
      | .inl p => return .inl { p with direct := true }
      | .inr p => return .inr p

def complete (r : Runner) (p : Plan) : Sh Plan := do
  let sets := p.builtin.any Builtin.takesSettings
  let more ← p.rest.mapM fun w => do
    if sets && Word.isSetting w then return [← Expand.one r Manner.setting w]
    else Expand.fields r w
  return { p with words := p.words ++ more.flatten, rest := [] }

def special (p : Plan) : Bool := p.isSpecial = some true

def isLocal (p : Plan) : Bool := ! p.words.isEmpty && ! p.special

def stays (p : Plan) : Bool := p.builtin = some "exec"

end Plan

namespace Command

def maxDepth : Nat := 1000

def call (r : Runner) (tested : Bool) (body : Script) (args : List String) : Sh Nat := do
  let st ← get
  if maxDepth ≤ st.depth then
    Sh.fail ("Maximum function recursion depth (" ++ toString maxDepth ++ ") reached")
  set { st with depth := st.depth + 1, args := .ofWords args, loops := 0 }
  discard (Sh.thenAlways (r.tree tested false body) (modify fun st' => { st' with
    depth := st.depth
    args := st.args
    loops := st.loops
    skip := match st'.skip with
      | some (.back _) => none
      | skip => skip }))
  return (← get).status

def perform (r : Runner) (tested special : Bool) (b : Builtin) (name : String)
    (args : List String) : Sh Nat := do
  let old := (← get).complaining
  modify fun st => { st with complaining := name }
  let how ← Sh.caught (b r tested args)
  modify fun st => { st with complaining := old }
  match how with
  | .ok n =>
    Sh.setStatus n
    return n
  | .error .fault => if special then throw .fault else return (← get).status
  | .error e => throw e

def launch (r : Runner) (last : Bool) (paths words : List String) : Sh Nat := do
  if last ∧ ¬ (← Actions.areThere) then Programs.become paths words
  else
    let pid ← Fork.start r Jobs.unblock (Programs.become paths words)
    Jobs.unblock
    Actions.finish (← Jobs.add [pid])

def assign (isLocal exported : Bool) (text : String) : Sh Unit := do
  let (name, value) := Builtin.setting text
  if isLocal then Builtin.localize name value true
  else
    value.forM (Sh.setVar name)
    if exported then Sh.markVar .exported name

def trace (r : Runner) (fd : Nat) (words : List String) : Sh Unit := do
  if (← Sh.isOn 'x') ∧ ¬ (← get).tracing then
    modify fun st => { st with tracing := true }
    let front ← r.quoted ((← Sh.getVar "PS4").getD "")
    modify fun st => { st with tracing := false }
    discard (Sh.act (Tool.put fd (front ++ String.intercalate " " words ++ "\n")))

def dispatch (r : Runner) (tested last : Bool) (p : Plan) : Sh Nat := do
  match p.words with
  | [] =>
    let n := (← get).substituted
    Sh.setStatus n
    return n
  | name :: args =>
    let functions := (← get).functions
    match if p.direct then none else functions.lookup name with
    | some f => call r tested f args
    | none =>
      match ← Programs.find name p.direct (if p.standard then some Variables.standardPath else none)
      with
      | .ok .builtin =>
        perform r tested p.special ((Builtin.ofName? name).getD Builtin.succeed) name args
      | .ok (.definition path) =>
        Definitions.load r name path
        match (← get).functions.lookup name with
        | some f => call r tested f args
        | none => return 127
      | .ok (.program _ paths) => launch r last paths (name :: args)
      | .error f =>
        Sh.complain (name ++ ": " ++ Programs.faultText f)
        Sh.setStatus 127
        return 127

/-- A command is redirected after its words are expanded and before anything is set. -/
def run (r : Runner) (tested last : Bool) (line : Nat) (settings words : List Word)
    (redirections : List Redirection) : Sh Nat := do
  modify fun st => { st with line, substituted := 0 }
  let p ← Plan.complete r (← Plan.classify r words)
  let body : Sh Nat := do
    let openings ← Redirect.openings r redirections
    let fallback : Sh Nat := do
      if p.special then throw .fault
      return (← get).status
    Redirect.during r openings p.stays fallback fun complaints => do
      let texts ← settings.mapM fun w => do
        let text ← Expand.one r Manner.setting w
        assign p.isLocal (p.stays && 1 < p.words.length) text
        return text
      trace r complaints (texts ++ p.passed ++ p.words)
      dispatch r tested last p
  if p.isLocal then Builtin.withLocals body else body

def anticipate (r : Runner) : Script → Sh Unit
  | .command _ _ (w :: _) _ => do
    let name := Word.text w
    let isKnown := ((← get).functions.lookup name).isSome
    if (Word.bare? w).isSome ∧ isName name ∧ ¬ isKnown then
      if let .ok (.definition path) ← Programs.find name false none then
        Definitions.load r name path
  | _ => pure ()

end Command

end RootedRun.Shell
