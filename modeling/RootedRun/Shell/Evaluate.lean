import RootedRun.Shell.Command
import RootedRun.Shell.Grammar
import RootedRun.Shell.Mail

namespace RootedRun.Shell

namespace Evaluate

def settle (x : Sh Nat) : Sh Nat := do
  let n ← x
  Sh.setStatus n
  return n

def isSkipping : Sh Bool := return (← get).skip.isSome

def atLine (line : Nat) : Sh Unit := modify fun st => { st with line }

def endOfRound : Sh (Option Skip) := do
  let st ← get
  let note (n : Nat) (again : Bool) : Sh (Option Skip) := do
    if n ≤ 1 then
      set { st with skip := none }
      return some (if again then .again 0 else .leave 0)
    set { st with skip := some (if again then .again (n - 1) else .leave (n - 1)) }
    return some (.leave (n - 1))
  match st.skip with
  | none => return none
  | some (.leave n) => note n false
  | some (.again n) => note n true
  | some (.back given) => return some (.back given)

def goesOn : Option Skip → Bool
  | none | some (.again _) => true
  | _ => false

def inLoop (x : Sh Nat) : Sh Nat := do
  modify fun st => { st with loops := st.loops + 1 }
  let n ← x
  modify fun st => { st with loops := st.loops - 1 }
  return n

def each (r : Runner) (tested : Bool) (name : String) (body : Script) (status : Nat) :
    List String → Sh Nat
  | [] => return status
  | w :: ws => do
    Sh.setVar name w
    let status ← r.tree tested false body
    if goesOn (← endOfRound) then each r tested name body status ws else return status

def loop (r : Runner) (tested stopOn : Bool) (condition body : Script) : Sh Nat :=
  Sh.repeatFrom 0 fun status => do
    let n ← r.tree true false condition
    match ← endOfRound with
    | some (.again _) => return .inl status
    | some (.back true) => return .inr n
    | some _ => return .inr status
    | none =>
      if (n = 0) = stopOn then return .inr status
      let status ← r.tree tested false body
      return if goesOn (← endOfRound) then .inl status else .inr status

def covers (r : Runner) (cs : List Char) : List Word → Sh Bool
  | [] => return false
  | w :: ws => do
    let p := Pattern.ofGlyphs (← r.word Manner.one w)
    if Pattern.covers p cs then return true else covers r cs ws

def choose (r : Runner) (tested last : Bool) (cs : List Char) :
    List (List Word × Script) → Sh Nat
  | [] => return 0
  | (patterns, body) :: cases => do
    if ← covers r cs patterns then
      if (← isSkipping) || body matches .nothing then return 0
      r.tree tested last body
    else choose r tested last cs cases

def connect (before : Option Nat) (pipe : Option (Nat × Nat)) : Sh Unit := do
  pipe.forM fun (reading, _) => Sh.ask (.close reading)
  before.forM fun fd => do
    if 0 < fd then
      discard (Sh.ask (.redirect fd 0))
      Sh.ask (.close fd)
  pipe.forM fun (_, writing) => do
    if 1 < writing then
      discard (Sh.ask (.redirect writing 1))
      Sh.ask (.close writing)

def stages (r : Runner) (tested background : Bool) (before : Option Nat) :
    List Script → Sh (List Nat)
  | [] => return []
  | s :: ss => do
    Command.anticipate r s
    let pipe ← if ss.isEmpty then pure none else some <$> Sh.pipe
    let prepare : Sh Unit := do
      if background then Fork.detach before.isNone
      connect before pipe
    let pid ← Fork.start r prepare (discard (r.tree tested true s))
    before.forM fun fd => Sh.ask (.close fd)
    pipe.forM fun (_, writing) => Sh.ask (.close writing)
    return pid :: (← stages r tested background (pipe.map (·.1)) ss)

def track (background : Bool) (pids : List Nat) : Sh Nat := do
  let n ← Jobs.add pids
  if background then
    modify fun st => { st with lastPid := pids.getLast? }
    return 0
  else Actions.finish n

def pipeline (r : Runner) (tested background : Bool) (ss : List Script) : Sh Nat := do
  track background (← stages r tested background none ss)

def apart (r : Runner) (tested last background : Bool) (body : Script)
    (redirections : List Redirection) : Sh Nat := do
  let openings ← Redirect.openings r redirections
  let here : Sh Nat := do
    Redirect.forever r openings
    r.tree (tested && ! background) true body
  if ! background && last && ! (← Actions.areThere) then here
  else
    let prepare : Sh Unit := if background then Fork.detach true else pure ()
    track background [← Fork.start r prepare (discard here)]

def isChecked : Script → Bool
  | .command .. | .pipeline .. | .background .. | .apart .. => true
  | _ => false

def command (r : Runner) (tested last : Bool) : Script → Sh Nat
  | .nothing => return 0
  | .command line settings words redirections =>
    settle (Command.run r tested last line settings words redirections)
  | .pipeline ss background => settle (pipeline r tested background ss)
  | .background line body redirections => do
    atLine line
    settle (apart r tested last true body redirections)
  | .apart line body redirections => do
    atLine line
    settle (apart r tested last false body redirections)
  | .redirected line body redirections => do
    atLine line
    let openings ← Redirect.openings r redirections
    settle (Redirect.during r openings false (pure 2) fun _ => r.tree tested false body)
  | .negated body => settle do
    let n ← r.tree true false body
    if ← isSkipping then return n
    return if n = 0 then 1 else 0
  | .both left right => do
    let n ← r.tree true false left
    if n ≠ 0 ∨ (← isSkipping) then return n else settle (r.tree tested last right)
  | .either left right => do
    let n ← r.tree true false left
    if n = 0 ∨ (← isSkipping) then return n else settle (r.tree tested last right)
  | .sequence left right => do
    let n ← r.tree tested false left
    if ← isSkipping then return n else settle (r.tree tested last right)
  | .branch condition yes no => do
    let n ← r.tree true false condition
    if ← isSkipping then return n
    if n = 0 then settle (r.tree tested last yes)
    else match no with
      | some no => settle (r.tree tested last no)
      | none => settle (pure 0)
  | .loop stopOn condition body => settle (inLoop (loop r tested stopOn condition body))
  | .each line name words body => do
    atLine line
    let fields ← Expand.allFields r words
    settle (inLoop (each r tested name body 0 fields))
  | .choose line word cases => do
    atLine line
    let text ← Expand.one r Manner.one word
    settle (choose r tested last text.toList cases)
  | .define name body => settle do
    modify fun st => { st with
      functions := (name, body) :: st.functions.filter (·.1 ≠ name)
      tracks := st.tracks.filter (·.1 ≠ name) }
    return 0

def tree (r : Runner) (tested last : Bool) (s : Script) : Sh Nat := do
  let n ← if ← Sh.isOn 'n' then pure 0 else do
    Actions.run r
    let n ← command r tested last s
    if ← Actions.areThere then Actions.run r
    if isChecked s ∧ n ≠ 0 ∧ ¬ tested ∧ (← Sh.isOn 'e') then Sh.stop .done
    pure n
  if last then Sh.stop .done else return n

def malformed (m : Malformed) : Sh α := do
  modify fun st => { st with line := m.line }
  Sh.fail ("Syntax error: " ++ m.message)

def line (r : Runner) (tested : Bool) (status : Nat) (l : Line) : Sh Nat := do
  modify fun st => { st with docs := l.rest.docs, atEnd := l.last }
  let n ← r.tree tested false l.script
  return if l.script matches .nothing then status else n

def text (r : Runner) (tested : Bool) (s : String) : Sh Nat :=
  Sh.repeatFrom (Reading.start s [] #[], 0) fun (reading, status) => do
    let st ← get
    match { reading with aliases := st.aliases, docs := st.docs }.line? with
    | .error m => malformed m
    | .ok none =>
      modify fun st => { st with atEnd := true }
      return .inr status
    | .ok (some l) =>
      let status ← line r tested status l
      return if ← isSkipping then .inr status else .inl (l.rest, status)

/-- A text that is read when it is needed: `ahead` has been read, and perhaps that is `all`. `asked`
tells that the next command has been asked for, and `ends` how often the end has been passed over.
-/
structure Feed where
  reading : Reading
  ahead : List Char
  all : Bool
  status : Nat
  asked : Bool
  ends : Nat

def Feed.start : Feed := ⟨Reading.start "" [] #[], [], false, 0, false, 0⟩

def blockSize : Nat := 8192

def Feed.more (f : Feed) (fd : Nat) : Sh Feed := do
  match ← Sh.ask (.read fd blockSize false) with
  | .error _ => return { f with all := true }
  | .ok bytes =>
    let cs := (Text.Octets.ofBytes bytes).toList.filter (· ≠ '\x00')
    return { f with ahead := f.ahead ++ cs, all := bytes.isEmpty }

def tellText (cs : List Char) : Sh Unit := do
  if ← Sh.isOn 'v' then discard (Sh.act (Tool.put 2 (String.ofList cs)))

def asksOf : Except Malformed (Option Line) → Nat
  | .error m => m.asks
  | .ok none => 0
  | .ok (some l) => l.rest.asks

def isWhole (all : Bool) : Except Malformed (Option Line) → Bool
  | .ok (some l) => all || ! l.last
  | _ => all

def tellAttended (s : String) : Sh Unit := discard (Sh.act (Tool.put 2 s))

def prompt (r : Runner) (name : String) : Sh Unit := do
  if let some s ← Sh.getVar name then tellAttended (← r.quoted s)

def maxEnds : Nat := 50

def endOfInput (f : Feed) : Sh (Feed ⊕ Nat) := do
  if (← Sh.isOn 'I') ∧ f.ends < maxEnds then
    tellAttended "\nUse \"exit\" to leave shell.\n"
    return .inl { f with ends := f.ends + 1, asked := false }
  if (← Sh.isOn 'i') ∧ f.ends < maxEnds then tellAttended "\n"
  return .inr f.status

def source (r : Runner) (whole : Bool) (fd : Nat) : Sh Nat :=
  Sh.repeatFrom (Feed.start : Feed) fun f => do
    let isAsked := whole && (← Sh.isOn 'i')
    modify fun st => { st with atEnd := false }
    if isAsked ∧ ¬ f.asked then
      Mail.check
      prompt r "PS1"
    let f := { f with asked := true }
    let st ← get
    let line? := { f.reading with
      chars := f.ahead, aliases := st.aliases, docs := st.docs }.line?
    if ¬ isWhole f.all line? then return .inl (← f.more fd)
    if isAsked then (List.range (asksOf line?)).forM fun _ => prompt r "PS2"
    match line? with
    | .error m =>
      tellText f.ahead
      malformed m
    | .ok none =>
      tellText f.ahead
      modify fun st => { st with atEnd := true }
      if whole then endOfInput { f with ahead := [] } else return .inr f.status
    | .ok (some l) =>
      tellText (f.ahead.take (f.ahead.length - l.rest.chars.length))
      let status ← line r false f.status l
      let f := { f with
        reading := l.rest, ahead := l.rest.chars, status, asked := false, ends := 0 }
      if ¬ (← isSkipping) then return .inl f
      modify fun st => { st with skip := match st.skip with
        | some (.back _) => none
        | skip => skip }
      return .inr f.status

def output (r : Runner) (s : Script) : Sh String := do
  if s matches .nothing then return ""
  let (reading, writing) ← Sh.pipe
  let prepare : Sh Unit := do
    Sh.ask (.close reading)
    if writing ≠ 1 then
      discard (Sh.ask (.redirect writing 1))
      Sh.ask (.close writing)
  let pid ← Fork.start r prepare (discard (r.tree false true s))
  Sh.ask (.close writing)
  let n ← Jobs.add [pid]
  let (text, _) ← Sh.act (Tool.getAll reading)
  Sh.ask (.close reading)
  let status ← Actions.finish n
  modify fun st => { st with substituted := status }
  let cs := text.toList.filter (· ≠ '\x00')
  return String.ofList (cs.reverse.dropWhile (· = '\n')).reverse

def quoted (r : Runner) (s : String) : Sh String := do
  let st ← get
  let start := Reading.start s st.aliases st.docs
  -- the end of another text may still be to be read
  let start := if st.atEnd then { start with pushed := true, last := .eof } else start
  match start.quoted? with
  | .error m =>
    modify fun st => { st with atEnd := false }
    Sh.complainOn m.line ("Syntax error: " ++ m.message)
    return s
  | .ok (w, rest) =>
    set { st with docs := rest.docs, atEnd := rest.pushed }
    match ← Sh.caught (r.word Manner.document w) with
    | .ok gs => return Glyph.text gs
    | .error .fault => return s
    | .error e => throw e

inductive Nested : Type → Type
  | tree (tested last : Bool) (s : Script) : Nested Nat
  | text (tested : Bool) (s : String) : Nested Nat
  | source (whole : Bool) (fd : Nat) : Nested Nat
  | word (m : Manner) (w : Word) : Nested (List Glyph)
  | quoted (s : String) : Nested String
  | output (s : Script) : Nested String

def runner (run : {α : Type} → Nested α → Sh α) : Runner where
  tree tested last s := run (.tree tested last s)
  text tested s := run (.text tested s)
  source whole fd := run (.source whole fd)
  word m w := run (.word m w)
  quoted s := run (.quoted s)
  output s := run (.output s)

def nested : (depth : Nat) → {α : Type} → Nested α → Sh α
  | 0, _, _ => Sh.act Act.stall
  | depth + 1, _, n =>
    let r := runner (nested depth)
    match n with
    | .tree tested last s => tree r tested last s
    | .text tested s => text r tested s
    | .source whole fd => source r whole fd
    | .word m w => Expand.word r m w
    | .quoted s => quoted r s
    | .output s => output r s

end Evaluate

def evaluator : Runner := Evaluate.runner (Evaluate.nested Bounded.endless)

end RootedRun.Shell
