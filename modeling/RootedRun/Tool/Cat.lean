import RootedRun.Tool.Basic
import RootedRun.Tool.Shown

namespace RootedRun.Tool.Cat

structure Style where
  numbers : Bool
  onlyFilled : Bool
  squeeze : Bool
  ends : Bool
  tabs : Bool
  visible : Bool

/-- `number` is that of the last line that got one, `blanks` how many line ends have just been
written, and `starting` tells that a line is about to start. A carriage return that may belong to
the end of its line is `held` until that is known. -/
structure Place where
  number : Nat
  blanks : Nat
  starting : Bool
  held : Bool

def Place.start : Place := ⟨0, 1, true, false⟩

def visible (c : Char) : List Char :=
  let low (n : Nat) : List Char :=
    if n < 32 then ['^', Char.ofNat (n + 64)] else if n = 127 then ['^', '?'] else [Char.ofNat n]
  let n := c.toNat
  if n < 128 then (if c = '\t' then [c] else low n) else 'M' :: '-' :: low (n - 128)

def numbered (n : Nat) : String :=
  let s := toString n
  String.ofList (List.replicate (6 - s.length) ' ') ++ s ++ "\t"

def next (st : Style) (p : Place) (c : Char) : Place × String :=
  if c = '\n' then
    let blank := p.starting
    if st.squeeze ∧ blank ∧ p.blanks ≥ 2 then (p, "")
    else
      let counted := st.numbers && blank && ! st.onlyFilled
      let number := if counted then p.number + 1 else p.number
      (⟨number, p.blanks + 1, true, false⟩, (if counted then numbered number else "")
        ++ (if p.held then "^M" else "") ++ (if st.ends then "$\n" else "\n"))
  else
    let counted := st.numbers && p.starting
    let number := if counted then p.number + 1 else p.number
    let holds := c = '\r' && st.ends && ! st.visible
    let s := if c = '\t' ∧ st.tabs then "^I"
      else if st.visible then String.ofList (visible c)
      else if holds then "" else c.toString
    (⟨number, 0, false, holds⟩,
      (if p.held then "\r" else "") ++ (if counted then numbered number else "") ++ s)

def isPlain (st : Style) : Bool :=
  ! (st.numbers || st.squeeze || st.ends || st.tabs || st.visible)

def render (st : Style) (p : Place) (text : String) : Place × String :=
  if isPlain st then (p, text)
  else text.toList.foldl (fun (p, s) c =>
    let (p, t) := next st p c
    (p, s ++ t)) (p, "")

def rules : Options.Rules where
  letters := "AbeEnstTuv".toList.map (·, .never)
  names := [("number-nonblank", .never, 'b'), ("number", .never, 'n'),
    ("squeeze-blank", .never, 's'), ("show-nonprinting", .never, 'v'), ("show-ends", .never, 'E'),
    ("show-tabs", .never, 'T'), ("show-all", .never, 'A')]

def style (switches : List Char) : Style where
  numbers := switches.any "bn".toList.contains
  onlyFilled := switches.contains 'b'
  squeeze := switches.contains 's'
  ends := switches.any "AeE".toList.contains
  tabs := switches.any "AtT".toList.contains
  visible := switches.any "Aetv".toList.contains

def copy (c : Call) (st : Style) (fd : Nat) (name : String) (p : Place) :
    Act (Option (Place × Nat)) :=
  Act.repeatFrom p fun p => do
    match ← get fd with
    | .error e =>
      c.complain (c.shown name ++ ": " ++ e.text)
      return .inr (some (p, 1))
    | .ok "" => return .inr (some (p, 0))
    | .ok text =>
      let (p, s) := render st p text
      match ← put 1 s with
      | .ok () => return .inl p
      | .error e =>
        c.complain ("write error: " ++ e.text)
        return .inr none

def isOutput (fd : Nat) : Act Bool := do
  match ← Act.ask (.lookAt fd), ← Act.ask (.lookAt 1) with
  | .ok a, .ok b =>
    return a.kind = .file && b.kind = .file && a.place = b.place && a.offset < a.size
  | _, _ => return false

def copyOne (c : Call) (st : Style) (name : String) (p : Place) : Act (Option (Place × Nat)) := do
  let opened ← if name = "-" then pure (.ok 0) else Act.ask (.open name .read)
  match opened with
  | .error e =>
    c.complain (c.shown name ++ ": " ++ e.text)
    return some (p, 1)
  | .ok fd =>
    let r ← if ← isOutput fd then do
        c.complain (c.shown name ++ ": input file is output file")
        pure (some (p, 1))
      else copy c st fd name p
    if name ≠ "-" then Act.ask (.close fd)
    return r

def copyAll (c : Call) (st : Style) : List String → Place → (status : Nat) → Act Nat
  | [], p, status => c.say (if p.held then "\r" else "") status
  | n :: ns, p, status => do
    match ← copyOne c st n p with
    | none => return 1
    | some (p, s) => copyAll c st ns p (max s status)

def check (c : Call) (fd : Nat) (name : String) : Act Bool := do
  match ← Act.ask (.lookAt fd) with
  | .ok _ => return true
  | .error e =>
    c.complain (name ++ ": " ++ e.text)
    return false

end Cat

def cat : Program := fun c =>
  match c.read Cat.rules with
  | (_, .error p) => c.turnDown p 1
  | (switches, .ok names) => do
    let names := if names.isEmpty then ["-"] else names
    if ← Cat.check c 1 "standard output" then
      let status ← Cat.copyAll c (Cat.style (switches.map (·.1))) names .start 0
      if names.contains "-" then discard (Cat.check c 0 "closing standard input")
      return status
    else return 1

end RootedRun.Tool
