import RootedRun.Tool.Shown

namespace RootedRun.Tool.Split

inductive Fault
  | endInQuotes
  | looseBackslash
  | unknownEscape (c : Char)
  | expansion (rest : String)
  | unclosed

def Fault.text : Fault → String
  | endInQuotes => "'\\c' must not appear in double-quoted -S string"
  | looseBackslash => "invalid backslash at end of string in -S"
  | unknownEscape c => "invalid sequence '\\" ++ c.toString ++ "' in -S"
  | expansion rest => "only $\x7bVARNAME\x7d expansion is supported, error at: " ++ rest
  | unclosed => "no terminating quote in -S string"

inductive Note
  | expanded (name value : String)
  | dropped (name : String)
  | parted (text : String) (words : List String)
  deriving DecidableEq

def Note.text (cs : Charset) : Note → String
  | expanded n v => "expanding $\x7b" ++ n ++ "\x7d into " ++ quoted cs v ++ "\n"
  | dropped n => "replacing $\x7b" ++ n ++ "\x7d with null string\n"
  | parted _ [] => ""
  | parted t (w :: ws) => "split -S:  " ++ quoted cs t ++ "\n into:    " ++ quoted cs w ++ "\n"
      ++ String.join (ws.map fun w => "     &    " ++ quoted cs w ++ "\n")

/-- `words` has the last word first, and `apart` tells that what comes next starts another one.
`notes` are what is told of variables, the last one first. -/
structure Splitting where
  words : List String
  apart : Bool
  quote : Option Char
  notes : List Note

namespace Splitting

def start : Splitting := ⟨[], true, none, []⟩

def inWord (s : Splitting) : Splitting :=
  if s.apart then { s with words := "" :: s.words, apart := false } else s

def push (s : Splitting) (t : String) : Splitting :=
  match s.inWord.words with
  | [] => s
  | w :: ws => { s with words := (w ++ t) :: ws, apart := false }

end Splitting

def isBlank (c : Char) : Bool := c = ' ' || (9 ≤ c.toNat && c.toNat ≤ 13)

def ofEscape? : Char → Option Char
  | 'f' => some '\x0c'
  | 'n' => some '\n'
  | 'r' => some '\r'
  | 't' => some '\t'
  | 'v' => some '\x0b'
  | c => if "\"#$'\\".toList.contains c then some c else none

def braced? : List Char → Option (String × List Char)
  | '\x7b' :: c :: cs =>
    let isFirst := c.isAlpha || c = '_'
    let name := c :: cs.takeWhile fun d => d.isAlphanum || d = '_'
    match cs.dropWhile fun d => d.isAlphanum || d = '_' with
    | '\x7d' :: rest => if isFirst then some (String.ofList name, rest) else none
    | _ => none
  | _ => none

def expand (env : List (String × String)) (s : Splitting) (name : String) : Splitting :=
  match env.lookup name with
  | some v =>
    let s := s.inWord.push v
    { s with notes := .expanded name v :: s.notes }
  | none => { s with notes := .dropped name :: s.notes }

def finish (s : Splitting) : Except Fault Splitting :=
  if s.quote.isSome then .error .unclosed else .ok s

def go (env : List (String × String)) : (fuel : Nat) → Splitting → List Char →
    Except Fault Splitting
  | 0, s, _ | _, s, [] => finish s
  | fuel + 1, s, c :: cs =>
    let plain := go env fuel (s.push c.toString) cs
    let isQuote := (c = '\'' || c = '"') && (s.quote.isNone || s.quote = some c)
    if isQuote then
      go env fuel { s.inWord with quote := if s.quote.isNone then some c else none } cs
    else if isBlank c ∧ s.quote.isNone then go env fuel { s with apart := true } cs
    else if c = '#' ∧ s.apart then .ok s
    else if c = '$' ∧ s.quote ≠ some '\'' then
      match braced? cs with
      | some (name, rest) => go env fuel (expand env s name) rest
      | none => .error (.expansion (String.ofList (c :: cs)))
    else if c = '\\' then
      match s.quote, cs with
      | some '\'', d :: r =>
        if d = '\\' ∨ d = '\'' then go env fuel (s.push d.toString) r else plain
      | some '\'', [] => plain
      | _, [] => .error .looseBackslash
      | some _, '_' :: r => go env fuel (s.push " ") r
      | none, '_' :: r => go env fuel { s with apart := true } r
      | some _, 'c' :: _ => .error .endInQuotes
      | none, 'c' :: _ => .ok s
      | _, d :: r =>
        match ofEscape? d with
        | some e => go env fuel (s.push e.toString) r
        | none => .error (.unknownEscape d)
    else plain

def words (env : List (String × String)) (text : String) :
    Except Fault (List String × List Note) :=
  (go env (text.length + 1) .start text.toList).map fun s => (s.words.reverse, s.notes.reverse)

end RootedRun.Tool.Split
