import RootedRun.Shell.Actions
import RootedRun.Shell.Builtin.Basic

namespace RootedRun.Shell.Builtin

structure Line where
  glyphs : List Glyph
  escaping : Bool

def Line.take (l : Line) (raw : Bool) (c : Char) : Line ⊕ Line :=
  if c = '\x00' then .inl l
  else if l.escaping then
    let field := if c = '\n' then l.glyphs else .char c false false :: l.glyphs
    .inl ⟨.span false :: field, false⟩
  else if c = '\\' ∧ ¬ raw then .inl { l with escaping := true }
  else if c = '\n' then .inr l
  else .inl { l with glyphs := .char c false true :: l.glyphs }

def readLine (raw : Bool) : Sh (List Glyph × Nat) :=
  Sh.repeatFrom (⟨[.span false], false⟩ : Line) fun l => do
    let char? ← match ← Sh.ask (.read 0 1 true) with
      | .error .interrupted => do
        Actions.notice
        pure none
      | .error _ => pure none
      | .ok bytes => pure (Text.Octets.ofBytes bytes).toList.head?
    match char? with
    | none => return .inr (l.glyphs.reverse, 1)
    | some c =>
      match l.take raw c with
      | .inl l => return .inl l
      | .inr l => return .inr (l.glyphs.reverse, 0)

def giveFields : List String → List (List Glyph) → Sh Unit
  | [], _ => pure ()
  | name :: names, [] => do
    Sh.setVar name ""
    giveFields names []
  | name :: names, f :: fs => do
    Sh.setVar name (Glyph.text f)
    giveFields names fs

def read : Builtin := fun _ _ args => do
  let (switches, names) ← switches "r" "p" args
  if names.isEmpty then Sh.fail "arg count"
  let (glyphs, status) ← readLine (has switches 'r')
  giveFields names (Fields.cut (← get).vars.separators (some names.length) glyphs)
  return status

structure Found where
  letter : Char
  value : Option String
  complaint : String
  isOver : Bool
  next : Nat
  inside : Option Nat

def Found.faulty (isQuiet unknown : Bool) (c : Char) (next : Nat) (inside : Option Nat) : Found :=
  let what := if unknown then "Illegal option -" ++ String.singleton c ++ "\n"
    else "No arg for -" ++ String.singleton c ++ " option\n"
  if isQuiet then
    ⟨if unknown then '?' else ':', some (String.singleton c), "", false, next, inside⟩
  else ⟨'?', none, what, false, next, inside⟩

def takesValue? (c : Char) : (letters : List Char) → Option Bool
  | [] => none
  | [l] => if l = c then some false else none
  | l :: ':' :: ls => if l = c then some true else takesValue? c ls
  | l :: m :: ls => if l = c then some false else takesValue? c (m :: ls)

def openWord (words : List String) (a : Arguments) : List Char :=
  match a.inside with
  | some n => if a.next ≤ 1 then [] else ((words[a.next - 2]?).getD "").toList.drop n
  | none => []

def nextSwitch (letters : List Char) (words : List String) (a : Arguments) : Found :=
  let isQuiet := letters.head? = some ':'
  let noMore (next : Nat) : Found := ⟨'?', none, "", true, next, none⟩
  let letter (c : Char) (cs : List Char) (next : Nat) : Found :=
    let before := ((words[next - 2]?).getD "").length
    let rest := some (before - cs.length)
    match takesValue? c letters with
    | none => .faulty isQuiet true c next rest
    | some false => ⟨c, some "", "", false, next, rest⟩
    | some true =>
      match cs, words[next - 1]? with
      | [], none => .faulty isQuiet false c next rest
      | [], some v => ⟨c, some v, "", false, next + 1, none⟩
      | cs, _ => ⟨c, some (String.ofList cs), "", false, next, none⟩
  match openWord words a with
  | c :: cs => letter c cs a.next
  | [] =>
    match (words[a.next - 1]?).map String.toList with
    | some ['-', '-'] => noMore (a.next + 1)
    | some ('-' :: c :: cs) => letter c cs (a.next + 1)
    | _ => noMore a.next

def getopts : Builtin := fun _ _ args => do
  match args with
  | letters :: name :: given =>
    let st ← get
    let words := if given.isEmpty then st.args.words else given
    let a := if words.length + 1 < st.args.next then { st.args with next := 1, inside := none }
      else st.args
    let f := nextSwitch letters.toList words a
    discard (Sh.act (Tool.put 2 f.complaint))
    unless f.isOver do
      match f.value with
      | some v => Sh.setVar "OPTARG" v
      | none => Sh.unsetVar "OPTARG"
    Sh.setVar "OPTIND" (toString f.next)
    Sh.setVar name (String.singleton f.letter)
    modify fun st => { st with args := { st.args with next := f.next, inside := f.inside } }
    return if f.isOver then 1 else 0
  | _ => Sh.fail "Usage: getopts optstring var [arg...]"

end RootedRun.Shell.Builtin
