import RootedRun.Task.Basic
import RootedRun.Shell.Script

namespace RootedRun.Shell

inductive Token
  | eof
  | newline
  | semicolon
  | ampersand
  | and
  | or
  | pipe
  | opening
  | closing
  | endCase
  | redirection
  | word
  | keyword (k : String)
  deriving DecidableEq

namespace Token

def keywords : List String :=
  ["!", "case", "do", "done", "elif", "else", "esac", "fi", "for", "if", "in", "then", "until",
    "while", "\x7b", "\x7d"]

def name : Token → String
  | eof => "end of file"
  | newline => "newline"
  | semicolon => "\";\""
  | ampersand => "\"&\""
  | and => "\"&&\""
  | or => "\"||\""
  | pipe => "\"|\""
  | opening => "\"(\""
  | closing => "\")\""
  | endCase => "\";;\""
  | redirection => "redirection"
  | word => "word"
  | keyword k => "\"" ++ k ++ "\""

def endsList : Token → Bool
  | eof | closing | endCase => true
  | keyword k => ["do", "done", "elif", "else", "esac", "fi", "then", "\x7d"].contains k
  | _ => false

end Token

/-- What is looked for in the next token: line ends are passed over, keywords are known, aliases are
replaced, and in the word that ends a document nothing is expanded. -/
structure Checks where
  newlines : Bool
  keywords : Bool
  aliases : Bool
  ending : Bool

namespace Checks

def none : Checks := ⟨false, false, false, false⟩

def command : Checks := ⟨false, true, true, false⟩

def later : Checks := ⟨true, true, true, false⟩

def or (a b : Checks) : Checks :=
  ⟨a.newlines || b.newlines, a.keywords || b.keywords, a.aliases || b.aliases, a.ending || b.ending⟩

end Checks

structure Awaited where
  id : Nat
  ending : List Char
  plain : Bool
  stripTabs : Bool

structure Replacement where
  name : String
  asksOn : Bool
  rest : List Char

/-- `word`, `quoted` and `redirection` go with the last token, and `pushed` tells that it is read
again. Somebody who types the text is asked for more where a command goes on in the next line:
`asks` counts how often, and `asksNext` tells that this is due before anything else is read. -/
structure Reading where
  chars : List Char
  line : Nat
  asks : Nat
  asksNext : Bool
  aliases : List (String × String)
  inside : List Replacement
  checks : Checks
  last : Token
  pushed : Bool
  word : Word
  quoted : Bool
  redirection : Redirection
  awaited : List Awaited
  docs : Array Word

structure Malformed where
  line : Nat
  asks : Nat
  message : String

abbrev Parse := StateT Reading (Except Malformed)

namespace Reading

def start (text : String) (aliases : List (String × String)) (docs : Array Word) : Reading where
  chars := text.toList
  line := 1
  asks := 0
  asksNext := false
  aliases := aliases
  inside := []
  checks := .none
  last := .newline
  pushed := false
  word := []
  quoted := false
  redirection := .document 0 0
  awaited := []
  docs := docs

def char (r : Reading) : List Replacement → Option Char × Reading
  | [] =>
    match r.chars with
    | [] => (none, { r with inside := [] })
    | c :: cs => (some c, { r with chars := cs, inside := [] })
  | i :: is =>
    match r.chars with
    | c :: cs => (some c, { r with chars := cs, inside := i :: is })
    | [] => char { r with
        chars := i.rest, checks := { r.checks with aliases := r.checks.aliases || i.asksOn } } is

end Reading

namespace Parse

def fail (message : String) : Parse α := do
  let r ← get
  throw ⟨r.line, r.asks, message⟩

def repeatFrom (s : σ) (step : σ → Parse (σ ⊕ α)) : Parse α :=
  Bounded.loop (fail "too long") step Bounded.endless s

def unexpected (expected : Option Token) : Parse α := do
  let found := (← get).last.name ++ " unexpected"
  fail (match expected with
    | none => found
    | some t => found ++ " (expecting " ++ t.name ++ ")")

def char : Parse (Option Char) := fun r => .ok (r.char r.inside)

def unread (c : Option Char) : Parse Unit :=
  modify fun r => { r with chars := c.toList ++ r.chars }

def countLine : Parse Unit := modify fun r => { r with line := r.line + 1, asks := r.asks + 1 }

def endLine : Parse Unit := modify fun r => { r with line := r.line + 1, asksNext := true }

def askNext : Parse Unit := modify fun r =>
  if r.asksNext then { r with asks := r.asks + 1, asksNext := false } else r

def next : Parse (Option Char) :=
  repeatFrom () fun _ => do
    match ← char with
    | some '\\' =>
      match ← char with
      | some '\n' =>
        countLine
        return .inl ()
      | c =>
        unread c
        return .inr (some '\\')
    | c => return .inr c

def check (checks : Checks) : Parse Unit := modify fun r => { r with checks }

def pushBack : Parse Unit := modify fun r => { r with pushed := true }

def token (t : Token) : Parse Token := do
  modify fun r => { r with last := t }
  return t

end Parse

end RootedRun.Shell
