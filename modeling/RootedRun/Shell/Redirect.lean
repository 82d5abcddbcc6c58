import RootedRun.Shell.Actions

namespace RootedRun.Shell

inductive Opening
  | file (fd : Nat) (way : Way) (path : String)
  | copy (fd : Nat) (source : Option Nat)
  | document (fd : Nat) (text : Word)

def Opening.fd : Opening → Nat
  | .file fd .. | .copy fd _ | .document fd _ => fd

structure Saved where
  fd : Nat
  copy : Option Nat

inductive Source
  | itself
  | nothing
  | opened (fd : Nat)
  | shared (fd : Nat)
  deriving DecidableEq

namespace Redirect

def badSource : Sh α := Sh.fail "Syntax error: Bad fd number"

def opening (r : Runner) : Redirection → Sh Opening
  | .file fd way path => return .file fd way (← Expand.one r Manner.one path)
  | .document fd id => return .document fd ((← get).docs.getD id [])
  | .copy fd source => do
    match (← Expand.one r Manner.one source).toList with
    | ['-'] => return .copy fd none
    | [c] => if c.isDigit then return .copy fd (some (c.toNat - 48)) else badSource
    | _ => badSource

def openings (r : Runner) (rs : List Redirection) : Sh (List Opening) := rs.mapM (opening r)

def faultText (creates : Bool) : Task.Fault → String
  | .os .notFound | .os .notDirectory =>
    if creates then "Directory nonexistent" else "No such file"
  | f => f.text

def refuse (path : String) (creates : Bool) (f : Task.Fault) : Sh α :=
  Sh.fail ("cannot " ++ (if creates then "create " else "open ") ++ path ++ ": "
    ++ faultText creates f)

def openAs (path : String) (mode : Task.Mode) (creates : Bool) : Sh Nat := do
  match ← Sh.ask (.open path mode) with
  | .ok fd => return fd
  | .error f => refuse path creates f

def openFresh (path : String) : Sh Nat := do
  match ← Sh.ask (.look path true) with
  | .error _ => openAs path .fresh true
  | .ok info =>
    if info.kind = .file then refuse path true .exists else openAs path .replace false

def openFile (path : String) : Way → Sh Nat
  | .read => openAs path .read false
  | .update => openAs path .update true
  | .append => openAs path .append true
  | .clobber => openAs path .replace true
  | .write => do
    if ← Sh.isOn 'C' then openFresh path else openAs path .replace true

def shortDocument : Nat := 4096

def openDocument (r : Runner) (text : Word) : Sh Nat := do
  let (reading, writing) ← Sh.pipe
  let gs ← r.word Manner.document text
  let bytes := Text.Octets.toBytes (Glyph.text gs)
  let write : Sh Unit := discard (Sh.ask (.write writing bytes))
  -- so few bytes surely go into a pipe; more of them are written by a process of its own
  if bytes.size ≤ shortDocument then write
  else
    let prepare : Sh Unit := do
      Sh.ask (.close reading)
      [1, 2, 3, 20].forM fun signal => Fork.react signal .ignore
      Fork.react 13 .usual
    discard (Fork.start r prepare write)
  Sh.ask (.close writing)
  return reading

def source (r : Runner) : Opening → Sh Source
  | .file _ way path => return .opened (← openFile path way)
  | .document _ text => return .opened (← openDocument r text)
  | .copy _ none => return .nothing
  | .copy fd (some n) => return if n = fd then .itself else .shared n

def save (fd : Nat) : Sh Saved := do
  match ← Sh.moved fd with
  | none => return ⟨fd, none⟩
  | some copy => return ⟨fd, some copy⟩

def keep (saved : List Saved) (fd : Nat) (s : Source) : Sh (List Saved) := do
  if s = .itself ∨ saved.any (·.fd = fd) then return saved
  if s = .opened fd then return ⟨fd, none⟩ :: saved
  return (← save fd) :: saved

def lead (fd : Nat) : Source → Sh Unit
  | .itself => pure ()
  | .nothing => Sh.ask (.close fd)
  | .opened n => do
    if n ≠ fd then
      discard (Sh.ask (.redirect n fd))
      Sh.ask (.close n)
  | .shared n => do
    match ← Sh.ask (.redirect n fd) with
    | .ok () => pure ()
    | .error f => Sh.fail (toString n ++ ": " ++ f.text)

def turn (r : Runner) (saving : Bool) (saved : List Saved) (o : Opening) :
    Sh (List Saved × Option Stop) := do
  match ← Sh.caught (do
    let s ← source r o
    return (s, ← if saving then keep saved o.fd s else pure saved)) with
  | .error e => return (saved, some e)
  | .ok (s, saved) =>
    match ← Sh.caught (lead o.fd s) with
    | .error e => return (saved, some e)
    | .ok () => return (saved, none)

def apply (r : Runner) (saving : Bool) (saved : List Saved) :
    List Opening → Sh (List Saved × Option Stop)
  | [] => return (saved, none)
  | o :: os => do
    match ← turn r saving saved o with
    | (saved, none) => apply r saving saved os
    | stopped => return stopped

def restore : Saved → Sh Unit
  | ⟨fd, none⟩ => Sh.ask (.close fd)
  | ⟨fd, some copy⟩ => do
    discard (Sh.ask (.redirect copy fd))
    Sh.ask (.close copy)

def forget (s : Saved) : Sh Unit := s.copy.forM fun copy => Sh.ask (.close copy)

def forever (r : Runner) (os : List Opening) : Sh Unit := do
  let (_, stop) ← apply r false [] os
  stop.forM throw

def during (r : Runner) (os : List Opening) (last : Bool) (fallback : Sh Nat)
    (body : (complaints : Nat) → Sh Nat) : Sh Nat := do
  let (saved, stop) ← apply r true [] os
  let complaints := ((saved.find? (·.fd = 2)).bind (·.copy)).getD 2
  let result ← Sh.caught (match stop with
    | none => body complaints
    | some .fault => fallback
    | some e => throw e)
  let saved := saved.mergeSort fun a b => a.fd ≤ b.fd
  saved.forM (if last ∧ result.isOk then forget else restore)
  MonadExcept.ofExcept result

end Redirect

end RootedRun.Shell
