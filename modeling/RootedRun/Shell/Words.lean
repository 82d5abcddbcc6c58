import RootedRun.Shell.Reading

namespace RootedRun.Shell

inductive Quoting
  | none
  | single
  | double
  | sum
  deriving DecidableEq

structure Frame where
  quoting : Quoting
  quotes : Bool
  inner : Bool
  own : Bool
  depth : Nat
  quotedDepth : Nat
  parens : Nat

inductive Unclosed
  | parameter (name : String) (rule : Rule) (before : List Part)
  | sum (before : List Part)

/-- `parts` has the last part first. What comes after `whole` is read, but is no part of the
word. -/
structure Builder where
  frame : Frame
  below : List Frame
  parts : List Part
  unclosed : List Unclosed
  whole : Option (List Part)
  quoted : Bool

namespace Builder

def start (quoting : Quoting) : Builder where
  frame := ⟨quoting, quoting = .double, false, false, 0, 0, 0⟩
  below := []
  parts := []
  unclosed := []
  whole := none
  quoted := false

def put (b : Builder) (c : Char) : Builder :=
  { b with parts := match b.parts with
    | .text s :: r => .text (s.push c) :: r
    | r => .text c.toString :: r }

def putEscaped (b : Builder) (c : Char) : Builder :=
  { b with parts := match b.parts with
    | .escaped s :: r => .escaped (s.push c) :: r
    | r => .escaped c.toString :: r }

def add (b : Builder) (p : Part) : Builder := { b with parts := p :: b.parts }

def mark (b : Builder) (inDocument : Bool) : Builder := if inDocument then b else b.add .mark

def toggle (b : Builder) : Builder :=
  if b.frame.depth = 0 then b else { b with frame.inner := ! b.frame.inner }

def push (b : Builder) (f : Frame) : Builder := { b with frame := f, below := b.frame :: b.below }

def pop (b : Builder) : Builder :=
  match b.below with
  | [] => b
  | f :: fs => { b with frame := f, below := fs }

def openSum (b : Builder) : Builder :=
  { b.push ⟨.sum, true, false, false, 0, 0, 0⟩ with
    parts := [], unclosed := .sum b.parts :: b.unclosed }

def openParameter (b : Builder) (name : String) (rule : Rule) : Builder :=
  let quoting := match rule, b.frame.quoting with
    | .trim .., _ => Quoting.none
    | _, .sum => .double
    | _, q => q
  let c :=
    if quoting = b.frame.quoting ∧ ¬ b.frame.inner then b
    else b.push ⟨quoting, quoting ≠ .none, false, true, 0, 0, 0⟩
  let f := c.frame
  let c := { c with
    frame := { f with
      depth := f.depth + 1
      quotedDepth := if f.quotes then f.quotedDepth + 1 else f.quotedDepth } }
  match rule with
  | .plain => c.add (.parameter name .plain [])
  | rule => { c with parts := [], unclosed := .parameter name rule b.parts :: b.unclosed }

def close (b : Builder) : Builder :=
  match b.unclosed with
  | [] => { b with whole := b.whole.or (some b.parts) }
  | .sum before :: us =>
    { b with parts := .arithmetic b.parts.reverse :: before, unclosed := us }
  | .parameter name rule before :: us =>
    { b with parts := .parameter name rule b.parts.reverse :: before, unclosed := us }

def brace (b : Builder) : Builder :=
  let f := b.frame
  if f.inner ∨ f.depth = 0 then b.put '\x7d'
  else if f.depth = 1 ∧ f.own then b.pop.close
  else close { b with frame := { f with depth := f.depth - 1, quotedDepth := f.quotedDepth - 1 } }

def keepsBackslash (b : Builder) (inDocument : Bool) (c : Char) : Bool :=
  let f := b.frame
  f.quotes && ! (c = '\\' || c = '\x60' || c = '$') && (c ≠ '"' || (inDocument && f.depth = 0))
    && (c ≠ '\x7d' || f.depth = 0 || (if f.quotedDepth = 0 then f.quotes else f.inner))

def backslash (b : Builder) (inDocument : Bool) : Option Char → Builder
  | none => b.putEscaped '\\'
  | some c =>
    let b := if b.keepsBackslash inDocument c then b.putEscaped '\\' else b
    { b.putEscaped c with quoted := true }

def openQuote (b : Builder) (inDocument : Bool) (c : Char) : Builder :=
  if c = '\'' then { b with frame.quoting := .single }.mark inDocument
  else ({ b with frame := { b.frame with quoting := .double, quotes := true } }.toggle).mark
    inDocument

def closeQuote (b : Builder) (inDocument : Bool) (c : Char) : Builder :=
  if inDocument ∧ b.frame.depth = 0 then b.putEscaped c
  else
    let b := if b.frame.quotedDepth = 0 then
      { b with frame := { b.frame with quoting := .none, quotes := false } } else b
    let b := { b with quoted := true }
    (if c = '"' then b.toggle else b).mark inDocument

end Builder

abbrev ReadInner := (old : Bool) → Parse Script

namespace Parse

def isSpecial (c : Char) : Bool := c.isDigit || "!#$*-?@".toList.contains c

def endsWord (c : Char) : Bool := "<>();&| \t".toList.contains c

def spanFrom (f : Char → Bool) (c : Option Char) : Parse (String × Option Char) :=
  repeatFrom ("", c) fun (s, c) => do
    match c with
    | some d => if f d then return .inl (s.push d, ← next) else return .inr (s, c)
    | none => return .inr (s, c)

def ruleFrom (c : Option Char) : Parse (Option Rule) := do
  match c with
  | some '%' | some '#' =>
    let d ← next
    let most := d = c
    if ¬ most then unread d
    return some (.trim (c = some '%') most)
  | _ =>
    let blank := c = some ':'
    match ← if blank then next else pure c with
    | some '\x7d' => return if blank then some .plain else none
    | some '-' => return some (.otherwise blank)
    | some '=' => return some (.assign blank)
    | some '+' => return some (.instead blank)
    | some '?' => return some (.required blank)
    | _ => return some .bad

def badParameter (c : Option Char) : Parse (String × Option Rule) := do
  unread c
  return ("", some .bad)

def bracedName : Parse (String × Option Rule) := do
  let plainName (c : Option Char) : Parse (Option (String × Option Char)) := do
    match c with
    | some d =>
      if isNameStart d then return some (← spanFrom isNameChar c)
      else if d.isDigit then return some (← spanFrom Char.isDigit c)
      else return none
    | none => return none
  let c ← next
  match ← plainName c with
  | some (name, c) => return (name, ← ruleFrom c)
  | none =>
    if c = some '\x7d' then badParameter c
    else
      let d ← next
      let special (c d : Option Char) : Parse (String × Option Rule) := do
        match c.filter isSpecial with
        | some s => return (s.toString, ← ruleFrom d)
        | none => badParameter d
      if c = some '#' then
        match ← plainName d with
        | some (name, e) =>
          unread e
          return (name, some (if e = some '\x7d' then .length else .bad))
        | none =>
          let e ← next
          unread e
          if d = some '\x7d' ∨ e ≠ some '\x7d' then special c d
          else
            match d.filter isSpecial with
            | some s => return (s.toString, some .length)
            | none => return ("", some .bad)
      else special c d

def dollar (inner : ReadInner) (b : Builder) : Parse Builder := do
  let c ← next
  let isEnding := (← get).checks.ending
  match c with
  | some '(' =>
    if isEnding then
      unread c
      return b.put '$'
    let d ← next
    if d = some '(' then return b.openSum
    unread d
    return b.add (.command (← inner false))
  | some '\x7b' =>
    if isEnding then
      unread c
      return b.put '$'
    let (name, rule) ← bracedName
    match rule with
    | none => return b.add (.parameter name .plain [])
    | some rule => return b.openParameter name rule
  | some d =>
    if isEnding then
      unread c
      return b.put '$'
    if isNameStart d then
      let (name, e) ← spanFrom isNameChar c
      unread e
      return b.add (.parameter name .plain [])
    if isSpecial d then return b.add (.parameter d.toString .plain [])
    unread c
    return b.put '$'
  | none => return b.put '$'

def oldText (b : Builder) : Parse String :=
  repeatFrom "" fun s => do
    match ← next with
    | none => fail "EOF in backquote substitution"
    | some '\x60' => return .inr s
    | some '\\' =>
      match ← char with
      | none => return .inl (s.push '\\')
      | some c =>
        let hides := c = '\\' || c = '\x60' || c = '$' || (b.frame.quotes && c = '"')
        return .inl ((if hides then s else s.push '\\').push c)
    | some c =>
      if c = '\n' then countLine
      return .inl (s.push c)

def backquote (inner : ReadInner) (b : Builder) : Parse Builder := do
  if (← get).checks.ending then return { b.put '\x60' with quoted := true }
  let text ← oldText b
  let outer ← get
  set { outer with chars := text.toList, line := 1, inside := [] }
  let script ← inner true
  modify fun r => { r with
    chars := outer.chars, line := outer.line, inside := outer.inside, pushed := false
    asks := outer.asks, asksNext := outer.asksNext }
  return b.add (.command script)

def lineStart (doc : Option Awaited) (c : Option Char) : Parse (Option Char) := do
  match doc with
  | none => return c
  | some d =>
    let r ← get
    let cs := c.toList ++ r.chars
    let cs := if d.stripTabs then cs.dropWhile (· = '\t') else cs
    let rest := cs.drop d.ending.length
    if d.ending.isPrefixOf cs ∧ (rest = [] ∨ rest.head? = some '\n') then
      set { r with chars := rest.tail }
      endLine
      return none
    else
      set { r with chars := cs.tail }
      return cs.head?

abbrev Making := Builder × Option Char

def endOfSum (b : Builder) : Parse Builder := do
  if b.frame.parens > 0 then
    return { b.put ')' with frame.parens := b.frame.parens - 1 }
  let d ← next
  if d = some ')' then return b.pop.close
  unread d
  return b.put ')'

def takeIn (inner : ReadInner) (doc : Option Awaited) (b : Builder) (c : Char) :
    Parse (Option Builder) := do
  let inDocument := doc.isSome
  match b.frame.quoting, c with
  | .single, '\'' => return some (b.closeQuote inDocument c)
  | .single, c => return some (b.putEscaped c)
  | _, '\\' =>
    let d ← char
    return some (b.backslash inDocument d)
  | .none, '\'' | .none, '"' => return some (b.openQuote inDocument c)
  | .double, '"' => return some (b.closeQuote inDocument c)
  | _, '$' => return some (← dollar inner b)
  | _, '\x60' => return some (← backquote inner b)
  | _, '\x7d' => return some b.brace
  | .sum, '(' => return some { b.put c with frame.parens := b.frame.parens + 1 }
  | .sum, ')' => return some (← endOfSum b)
  | .none, c => return if endsWord c ∧ b.frame.depth = 0 then none else some (b.put c)
  | .double, c => return some (b.putEscaped c)
  | .sum, c => return some (b.put c)

def following (b : Builder) : Parse (Option Char) :=
  if b.frame.quoting = .single then char else next

def make (inner : ReadInner) (doc : Option Awaited) (m : Making) : Parse (Making ⊕ Making) := do
  match m with
  | (b, none) => return .inr (b, none)
  | (b, some '\n') =>
    if b.frame.quoting = .none ∧ b.frame.depth = 0 then return .inr m
    countLine
    let b := if b.frame.quoting = .single ∨ b.frame.quoting = .double then b.putEscaped '\n'
      else b.put '\n'
    return .inl (b, ← lineStart doc (← following b))
  | (b, some c) =>
    match ← takeIn inner doc b c with
    | none => return .inr m
    | some b => return .inl (b, ← following b)

def build (inner : ReadInner) (doc : Option Awaited) (quoting : Quoting) (first : Option Char) :
    Parse Making := do
  let first ← lineStart doc first
  let (b, c) ← repeatFrom (Builder.start quoting, first) (make inner doc)
  if b.frame.quoting = .sum then fail "Missing '))'"
  if b.frame.quoting ≠ .none ∧ doc.isNone then fail "Unterminated quoted string"
  if b.frame.depth ≠ 0 then fail "Missing '\x7d'"
  return ({ b with parts := b.whole.getD b.parts }, c)

def redirectionSign (fd : Option Nat) (c : Char) : Parse Unit := do
  let d ← next
  let r ← if c = '>' then
      let fd := fd.getD 1
      match d with
      | some '>' => pure (.file fd .append [])
      | some '|' => pure (.file fd .clobber [])
      | some '&' => pure (.copy fd [])
      | d =>
        unread d
        pure (.file fd .write [])
    else
      let fd := fd.getD 0
      match d with
      | some '<' =>
        let e ← next
        let stripTabs := e = some '-'
        if ¬ stripTabs then unread e
        let id := (← get).docs.size
        modify fun r => { r with
          docs := r.docs.push [], awaited := r.awaited ++ [⟨id, [], false, stripTabs⟩] }
        pure (.document fd id)
      | some '&' => pure (.copy fd [])
      | some '>' => pure (.file fd .update [])
      | d =>
        unread d
        pure (.file fd .read [])
  modify fun s => { s with redirection := r }

def digit? : List Part → Option (Option Nat)
  | [] => some none
  | [.text s] =>
    match s.toList with
    | [c] => if c.isDigit then some (some (c.toNat - '0'.toNat)) else none
    | _ => none
  | _ => none

def wordToken (inner : ReadInner) (first : Char) : Parse Token := do
  let (b, c) ← build inner none .none (some first)
  match c, if b.quoted then none else digit? b.parts with
  | some '<', some fd =>
    redirectionSign fd '<'
    token .redirection
  | some '>', some fd =>
    redirectionSign fd '>'
    token .redirection
  | c, _ =>
    unread c
    modify fun r => { r with word := b.parts.reverse, quoted := b.quoted }
    token .word

def documents (inner : ReadInner) : Parse Unit := do
  let awaited := (← get).awaited
  modify fun r => { r with awaited := [] }
  awaited.forM fun d => do
    askNext
    let first ← if d.plain then char else next
    let (b, _) ← build inner (some d) (if d.plain then .single else .double) first
    modify fun r => { r with docs := r.docs.set! d.id b.parts.reverse }

end Parse

end RootedRun.Shell
