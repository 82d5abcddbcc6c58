import RootedRun.Shell.Arithmetic
import RootedRun.Shell.Paths
import RootedRun.Shell.State

namespace RootedRun.Shell

/-- How a word is expanded. A `full` one is cut into fields; `tilde` allows a home at the front and
`assigns` one after an equals sign or a colon. `inner` is the word of a parameter, whose text cuts
fields too, and `quoted` one between quotes. -/
structure Manner where
  full : Bool
  tilde : Bool
  assigns : Bool
  inner : Bool
  quoted : Bool

namespace Manner

def fields : Manner := ⟨true, true, false, false, false⟩

def one : Manner := ⟨false, true, false, false, false⟩

def setting : Manner := ⟨false, false, true, false, false⟩

def document : Manner := ⟨false, false, false, false, true⟩

def sum : Manner := ⟨false, false, false, false, false⟩

def isLoose (m : Manner) (inQuotes : Bool) : Bool := m.inner && ! m.quoted && ! inQuotes

end Manner

/-- How what is nested in commands and words is run: a command, whose status may be tested and which
may be the last of its process; a text of commands, and one that is read from a descriptor, which
may be the whole script; the words of parameters; what a text stands for between quotes; and the
output of scripts. -/
structure Runner where
  tree : (tested last : Bool) → Script → Sh Nat
  text : (tested : Bool) → String → Sh Nat
  source : (whole : Bool) → (fd : Nat) → Sh Nat
  word : Manner → Word → Sh (List Glyph)
  quoted : String → Sh String
  output : Script → Sh String

namespace Expand

def optionLetters : List Char := "pubaCEVvxsnmiIfe".toList

inductive Held
  | one (s : String)
  | arguments (ss : List String)

def argument? (name : String) : Option Nat := do
  let n := Int32.ofInt (Tool.Numeral.clamp (← Tool.Numeral.decimal? name))
  if 0 ≤ n then return n.toInt.toNat else none

def held? (st : State) (name : String) : Option Held :=
  match name with
  | "$" => some (.one (toString st.pid))
  | "?" => some (.one (toString st.status))
  | "#" => some (.one (toString st.args.words.length))
  | "!" => st.lastPid.map fun p => .one (toString p)
  | "-" => some (.one (String.ofList (optionLetters.filter st.options.contains)))
  | "@" | "*" => some (.arguments st.args.words)
  | name =>
    if name.front.isDigit then
      match argument? name with
      | some 0 => some (.one st.name)
      | some (n + 1) => (st.args.words[n]?).map .one
      | none => none
    else (st.vars.get? name).map .one

def loose (m : Manner) (s : String) : List Glyph :=
  if m.quoted then Glyph.ofText true false s else .span false :: Glyph.ofText false true s

def joined (m : Manner) (joint : String) (ss : List String) : List Glyph :=
  loose m (String.intercalate joint ss)

def glyphs (st : State) (m : Manner) (name : String) : Held → List Glyph
  | .one s => loose m s
  | .arguments [] => []
  | .arguments ss =>
    let between := [Glyph.char Glyph.between false true]
    if ! m.full then joined m st.vars.joint ss
    else if ! m.quoted then
      .span false :: ((ss.map (Glyph.ofText false true)).intersperse between).flatten
    else if name = "@" then
      .span true :: ((ss.map (Glyph.ofText true true)).intersperse between).flatten
    else joined m st.vars.joint ss

def length (gs : List Glyph) : Nat := (gs.filterMap Glyph.char?).length

def homeOf? (name : String) : Sh (Option String) := do
  match ← Sh.ask (.open "/etc/passwd" .read) with
  | .error _ => return none
  | .ok fd =>
    let (text, _) ← Sh.act (Tool.getAll fd)
    Sh.ask (.close fd)
    return (text.splitOn "\n").findSome? fun line =>
      match line.splitOn ":" with
      | n :: _ :: _ :: _ :: _ :: home :: _ => if n = name then some home else none
      | _ => none

def home? (name : String) : Sh (Option String) :=
  if name = "" then Sh.getVar "HOME" else homeOf? name

def literal (m : Manner) (inQuotes last : Bool) :
    (fuel : Nat) → (front set : Bool) → List Char → Sh (List Glyph)
  | 0, _, _, _ | _, _, _, [] => return []
  | fuel + 1, front, set, c :: cs => do
    let ends (d : Char) : Bool := d = '/' || (d = ':' && m.assigns)
    let name := cs.takeWhile (! ends ·)
    let isWhole := last || name.length < cs.length
    match ← if front ∧ c = '~' ∧ isWhole then home? (String.ofList name) else pure none with
    | some home =>
      return Glyph.ofText true false home
        ++ (← literal m inQuotes last fuel false set (cs.drop name.length))
    | none =>
      let front := m.assigns && (c = ':' || (c = '=' && ! set))
      if m.assigns ∧ cs.contains '~' then
        return .char c false (m.isLoose inQuotes)
          :: (← literal m inQuotes last fuel front (set || c = '=') cs)
      else return Glyph.ofText false (m.isLoose inQuotes) (String.ofList (c :: cs))

def text (m : Manner) (inQuotes first last : Bool) (s : String) : Sh (List Glyph) := do
  let gs ← literal m inQuotes last (s.length + 1) (first && m.tilde) (! first || m.inner) s.toList
  return if m.isLoose inQuotes then .span false :: gs else gs

def integerOf (s : String) : Sh Int64 := do
  let malformed : Sh Int64 := Sh.fail ("Illegal number: " ++ s)
  match Tool.Numeral.signed? s.toList with
  | none => if s.toList.all Tool.Numeral.isSpace then return 0 else malformed
  | some (n, rest) =>
    if Tool.Numeral.fits n ∧ rest.all Tool.Numeral.isSpace then return Int64.ofInt n
    else malformed

def access (expression : String) : Arithmetic.Access Sh where
  get name := do
    match held? (← get) name with
    | some (.one s) => integerOf s
    | _ => return 0
  set name n := Sh.setVar name (toString n.toInt)
  fault f := do
    if f = .tooLarge then
      discard (Sh.ask (.kill (← get).pid 8))
    Sh.fail (f.message expression)

def sum (expression : String) : Sh Int64 :=
  (Arithmetic.read expression).eval (access expression) true

def unset (name : String) (message : String) : Sh α := Sh.fail (name ++ ": " ++ message)

def trimmed (atEnd most : Bool) (pattern value : List Glyph) : List Glyph :=
  let p := Pattern.ofGlyphs pattern
  let chars := value.filter fun g => g.char?.isSome
  let spans := value.filter fun g => g.char?.isNone
  let fields := (value.filterMap Glyph.char?).splitOn Glyph.between
  if atEnd then spans ++ chars.take (Pattern.keptOfEnd most p fields)
  else spans ++ chars.drop (Pattern.takenOffFront most p fields)

def required (r : Runner) (name : String) (blank : Bool) (word : Word) : Sh α := do
  if word.isEmpty then
    unset name (if blank then "parameter not set or null" else "parameter not set")
  else unset name (Glyph.text (← r.word Manner.one word))

def parameter (r : Runner) (m : Manner) (name : String) (rule : Rule) (word : Word) :
    Sh (List Glyph) := do
  let st ← get
  let value? := (held? st name).map (glyphs st m name)
  let missing (blank : Bool) : Bool := match value? with
    | none => true
    | some gs => blank && length gs = 0
  let inner : Sh (List Glyph) := r.word { m with tilde := true, inner := true } word
  /- The value of a parameter that has to have one where that is asked for. -/
  let value : Sh (List Glyph) := do
    if value?.isNone ∧ st.options.contains 'u' then unset name "parameter not set"
    return value?.getD []
  match rule with
  | .bad => Sh.fail "Bad substitution"
  | .plain => value
  | .length => return loose m (toString (length (← value)))
  | .otherwise blank => if missing blank then inner else value
  | .instead blank => if missing blank then return [] else inner
  | .assign blank =>
    if missing blank then
      Sh.setVar name (Glyph.text (← r.word Manner.one word))
      let st ← get
      return ((held? st name).map (glyphs st m name)).getD []
    else value
  | .required blank => if missing blank then required r name blank word else value
  | .trim atEnd most =>
    let gs ← value
    if value?.isNone then return []
    return trimmed atEnd most (← r.word Manner.one word) gs

def parts (r : Runner) (m : Manner) : (inQuotes first : Bool) → List Part → Sh (List Glyph)
  | _, _, [] => return []
  | false, _, .mark :: .parameter "@" .plain [] :: .mark :: ps => do
    let gs ← parameter r { m with quoted := true } "@" .plain []
    return gs ++ (← parts r m false false ps)
  | inQuotes, first, p :: ps => do
    let m' := { m with quoted := m.quoted || inQuotes }
    let gs ← match p with
      | .text s => text m inQuotes first ps.isEmpty s
      | .escaped s => pure (Glyph.ofText true false s)
      | .mark => pure [.mark]
      | .parameter name rule word => parameter r m' name rule word
      | .arithmetic word => do
        pure (loose m' (toString (← sum (Glyph.text (← r.word Manner.sum word))).toInt))
      | .command s => do pure (loose m' (← r.output s))
    let inQuotes := match p with
      | .mark => ! inQuotes
      | _ => inQuotes
    return gs ++ (← parts r m inQuotes false ps)

def word (r : Runner) (m : Manner) (w : Word) : Sh (List Glyph) := parts r m false true w

def one (r : Runner) (m : Manner) (w : Word) : Sh String := return Glyph.text (← word r m w)

def fields (r : Runner) (w : Word) : Sh (List String) := do
  let gs ← word r Manner.fields w
  let st ← get
  let paths ← (Fields.cut st.vars.separators none gs).mapM fun f =>
    Sh.act (Paths.ofField (! st.options.contains 'f') f)
  return paths.flatten

def allFields (r : Runner) (ws : List Word) : Sh (List String) := do
  return (← ws.mapM (fields r)).flatten

end Expand

end RootedRun.Shell
