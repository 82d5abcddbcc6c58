import RootedRun.Shell.Words

namespace RootedRun.Shell

/-- What can be read as a whole: a line of commands; commands up to a token that ends them, at least
one of them unless they may be missing; a command; a condition with what depends on it; or a script
inside a word. -/
inductive Goal
  | line
  | block
  | missing
  | command
  | branches
  | inner (old : Bool)

namespace Parse

variable (self : Goal → Parse Script)

def rawToken : Parse Token := do
  let r ← get
  if r.pushed then
    set { r with pushed := false }
    return r.last
  askNext
  let inner : ReadInner := fun old => self (.inner old)
  /- A sign that may be doubled. -/
  let doubled (c : Char) (once twice : Token) : Parse (Unit ⊕ Token) := do
    let d ← next
    if d = some c then return .inr (← token twice)
    unread d
    return .inr (← token once)
  repeatFrom () fun _ => do
    match ← next with
    | none => return .inr (← token .eof)
    | some ' ' | some '\t' => return .inl ()
    | some '#' =>
      modify fun r => { r with chars := r.chars.dropWhile (· ≠ '\n') }
      return .inl ()
    | some '\n' =>
      endLine
      return .inr (← token .newline)
    | some '&' => doubled '&' .ampersand .and
    | some '|' => doubled '|' .pipe .or
    | some ';' => doubled ';' .semicolon .endCase
    | some '(' => return .inr (← token .opening)
    | some ')' => return .inr (← token .closing)
    | some c => return .inr (← wordToken inner c)

def pastNewlines (t : Token) : Parse Token :=
  repeatFrom t fun t => do
    if t ≠ .newline then return .inr t
    documents fun old => self (.inner old)
    check .none
    return .inl (← rawToken self)

def replaceAlias (word : String) : Parse Bool := do
  let r ← get
  match r.aliases.lookup word with
  | none => return false
  | some text =>
    if r.inside.any (·.name = word) then return false
    let asksOn := text.toList.getLast?.any fun c => c = ' ' || c = '\t'
    set { r with chars := text.toList, inside := ⟨word, asksOn, r.chars⟩ :: r.inside }
    return true

def nextToken : Parse Token := do
  repeatFrom (← get).checks fun asked => do
    let t ← rawToken self
    let t ← if asked.newlines then pastNewlines self t else pure t
    let r ← get
    let asked := asked.or r.checks
    set { r with checks := .none }
    match t, r.quoted, Word.bare? r.word with
    | .word, false, some s =>
      if asked.keywords ∧ Token.keywords.contains s then return .inr (← token (.keyword s))
      else if asked.aliases then
        if ← replaceAlias s then return .inl asked else return .inr t
      else return .inr t
    | t, _, _ => return .inr t

def expect (t : Token) : Parse Unit := do
  if (← nextToken self) ≠ t then unexpected (some t)

def redirectionTarget : Parse Redirection := do
  let r := (← get).redirection
  match r with
  | .document .. => check { Checks.none with ending := true }
  | _ => pure ()
  if (← nextToken self) ≠ .word then unexpected none
  let word := (← get).word
  match r with
  | .file fd way _ => return .file fd way word
  | .copy fd _ => return .copy fd word
  | .document fd id =>
    modify fun s => { s with awaited := s.awaited.map fun d =>
      if d.id = id then { d with ending := (Word.text word).toList, plain := s.quoted } else d }
    return .document fd id

def redirections : Parse (List Redirection) := do
  check .command
  repeatFrom [] fun rs => do
    if (← nextToken self) = .redirection then return .inl (rs ++ [← redirectionTarget self])
    pushBack
    return .inr rs

structure Simple where
  settings : List Word
  words : List Word
  redirections : List Redirection

def reserved : List String :=
  [".", ":", "break", "continue", "eval", "exec", "exit", "export", "local", "readonly", "return",
    "set", "shift", "times", "trap", "unset"]

def function (word : Word) : Parse Script := do
  expect self .closing
  match word with
  | [.text name] =>
    if ¬ isName name ∨ reserved.contains name then fail "Bad function name"
    check .later
    return .define name (← self .command)
  | _ => fail "Bad function name"

def simple : Parse Script := do
  let line := (← get).line
  repeatFrom (⟨[], [], []⟩ : Simple) fun s => do
    check { Checks.none with aliases := s.words.isEmpty }
    match ← nextToken self with
    | .word =>
      let word := (← get).word
      if s.words.isEmpty ∧ word.isSetting then
        return .inl { s with settings := s.settings ++ [word] }
      return .inl { s with words := s.words ++ [word] }
    | .redirection =>
      return .inl { s with redirections := s.redirections ++ [← redirectionTarget self] }
    | t =>
      match t, s with
      | .opening, ⟨[], [word], []⟩ => return .inr (← function self word)
      | _, _ =>
        pushBack
        return .inr (.command line s.settings s.words s.redirections)

def branches : Parse Script := do
  let condition ← self .block
  expect self (.keyword "then")
  let yes ← self .block
  match ← nextToken self with
  | .keyword "elif" => return .branch condition yes (some (← self .branches))
  | .keyword "else" => return .branch condition yes (some (← self .block))
  | _ =>
    pushBack
    return .branch condition yes none

def loopWords : Parse (List Word) :=
  repeatFrom [] fun ws => do
    match ← nextToken self with
    | .word => return .inl (ws ++ [(← get).word])
    | .newline | .semicolon => return .inr ws
    | _ => unexpected none

def loopOver (line : Nat) : Parse Script := do
  let t ← nextToken self
  let r ← get
  match t, r.quoted, (Word.bare? r.word).filter isName with
  | .word, false, some name =>
    check .later
    let words ← match ← nextToken self with
      | .keyword "in" => loopWords self
      | .semicolon => pure [Word.arguments]
      | _ =>
        pushBack
        pure [Word.arguments]
    check .later
    expect self (.keyword "do")
    let body ← self .block
    expect self (.keyword "done")
    return .each line name words body
  | _, _, _ => fail "Bad for loop variable"

def patterns (first : Token) : Parse (List Word) := do
  if first = .opening then discard (nextToken self)
  let ps ← repeatFrom [] fun ps => do
    let ps := ps ++ [(← get).word]
    if (← nextToken self) ≠ .pipe then return .inr ps
    discard (nextToken self)
    return .inl ps
  if (← get).last ≠ .closing then unexpected (some .closing)
  return ps

def cases : Parse (List (List Word × Script)) :=
  repeatFrom [] fun cs => do
    check { Checks.later with aliases := false }
    let t ← nextToken self
    if t = .keyword "esac" then return .inr cs
    let ps ← patterns self t
    let cs := cs ++ [(ps, ← self .missing)]
    check { Checks.later with aliases := false }
    match ← nextToken self with
    | .keyword "esac" => return .inr cs
    | .endCase => return .inl cs
    | _ => unexpected (some .endCase)

def choice (line : Nat) : Parse Script := do
  expect self .word
  let word := (← get).word
  check .later
  expect self (.keyword "in")
  return .choose line word (← cases self)

def loopWhile (stopOn : Bool) : Parse Script := do
  let condition ← self .block
  expect self (.keyword "do")
  let body ← self .block
  expect self (.keyword "done")
  return .loop stopOn condition body

def enclosed (ending : Token) : Parse Script := do
  let body ← self .block
  expect self ending
  return body

def command : Parse Script := do
  let line := (← get).line
  let redirected (s : Script) : Parse Script := do
    match ← redirections self with
    | [] => return s
    | rs => return .redirected line s rs
  match ← nextToken self with
  | .keyword "if" =>
    let s ← branches self
    expect self (.keyword "fi")
    redirected s
  | .keyword "while" => redirected (← loopWhile self false)
  | .keyword "until" => redirected (← loopWhile self true)
  | .keyword "for" => redirected (← loopOver self line)
  | .keyword "case" => redirected (← choice self line)
  | .keyword "\x7b" => redirected (← enclosed self (.keyword "\x7d"))
  | .opening =>
    let body ← enclosed self .closing
    return .apart line body (← redirections self)
  | .word | .redirection =>
    pushBack
    simple self
  | _ => unexpected none

def pipeline : Parse Script := do
  let negated := (← nextToken self) = .keyword "!"
  if negated then check .command else pushBack
  let first ← command self
  let stages ← repeatFrom [first] fun stages => do
    if (← nextToken self) ≠ .pipe then return .inr stages
    check .later
    return .inl (stages ++ [← command self])
  pushBack
  let s := match stages with
    | [s] => s
    | stages => .pipeline stages false
  return if negated then .negated s else s

def chain : Parse Script := do
  repeatFrom (← pipeline self) fun s => do
    match ← nextToken self with
    | .and =>
      check .later
      return .inl (.both s (← pipeline self))
    | .or =>
      check .later
      return .inl (.either s (← pipeline self))
    | _ =>
      pushBack
      return .inr s

def inBackground : Script → Script
  | .pipeline stages _ => .pipeline stages true
  | .redirected line body rs => .background line body rs
  | s => .background 0 s []

def join : Script → Script → Script
  | .nothing, t => t
  | s, t => .sequence s t

def list (ofLine empty : Bool) : Parse Script :=
  repeatFrom (Script.nothing, empty) fun (s, mayEnd) => do
    check { Checks.later with newlines := ! ofLine }
    let inner : ReadInner := fun old => self (.inner old)
    match ← nextToken self with
    | .newline =>
      documents inner
      return .inr s
    | .eof =>
      documents inner
      pushBack
      discard (token .eof)
      return .inr s
    | t =>
      pushBack
      if mayEnd ∧ t.endsList then return .inr s
      let next ← chain self
      let t ← nextToken self
      let s := join s (if t = .ampersand then inBackground next else next)
      match t with
      | .eof =>
        documents inner
        pushBack
        discard (token .eof)
        return .inr s
      | .newline =>
        pushBack
        return .inl (s, ! ofLine)
      | .ampersand | .semicolon => return .inl (s, ! ofLine)
      | _ =>
        if ofLine then unexpected none
        pushBack
        return .inr s

def inner (old : Bool) : Parse Script := do
  let awaited := (← get).awaited
  modify fun r => { r with awaited := [] }
  let s ← self .missing
  unless old do
    expect self .closing
    let r ← get
    set { r with chars := [], inside := [] }
    documents fun old => self (.inner old)
    modify fun q => { q with chars := r.chars, inside := r.inside, line := r.line }
  modify fun r => { r with awaited }
  return s

def read : Goal → Parse Script
  | .line => list self true false
  | .block => list self false false
  | .missing => list self false true
  | .command => command self
  | .branches => branches self
  | .inner old => inner self old

def nested : (depth : Nat) → Goal → Parse Script
  | 0, _ => fail "too deep"
  | depth + 1, g => read (nested depth) g

end Parse

structure Line where
  script : Script
  last : Bool
  rest : Reading

def Reading.line? (r : Reading) : Except Malformed (Option Line) := do
  let r := { r with
    pushed := false, checks := .none, awaited := [], asks := 0, asksNext := false }
  let (s, rest) ← Parse.nested Bounded.endless .line r
  let last := rest.pushed && rest.last = .eof
  match s, last with
  | .nothing, true => return none
  | s, last => return some ⟨s, last, rest⟩

def Reading.quoted? (r : Reading) : Except Malformed (Word × Reading) := do
  let inner : ReadInner := fun old => Parse.nested Bounded.endless (.inner old)
  let endless : Awaited := ⟨0, ['\x00'], false, false⟩
  let first : Parse Parse.Making := do
    Parse.build inner (some endless) .double (← Parse.next)
  let ((b, _), rest) ← first.run r
  return (b.parts.reverse, rest)

end RootedRun.Shell
