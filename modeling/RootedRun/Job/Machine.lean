import RootedRun.Job.Session
import RootedRun.Shell.Start
import RootedRun.Task.Schedule
import RootedRun.Tool.Cat
import RootedRun.Tool.Env
import RootedRun.Tool.Plain
import RootedRun.Tool.Sleep
import RootedRun.Tool.Tail

namespace RootedRun.Programs

def ofPath? : String → Option Tool.Program
  | "/usr/bin/[" => some Tool.test
  | "/usr/bin/cat" => some Tool.cat
  | "/usr/bin/dash" => some Shell.program
  | "/usr/bin/echo" => some Tool.echo
  | "/usr/bin/env" => some Tool.env
  | "/usr/bin/false" => some Tool.fail
  | "/usr/bin/id" => some Tool.identity
  | "/usr/bin/printf" => some Tool.printf
  | "/usr/bin/pwd" => some Tool.pwd
  | "/usr/bin/sleep" => some Tool.sleep
  | "/usr/bin/tail" => some Tool.tail
  | "/usr/bin/test" => some Tool.test
  | "/usr/bin/true" => some Tool.succeed
  | _ => none

def load : Task.Load := fun path words env =>
  match ofPath? path with
  | none => .stall
  | some program => (program ⟨words.headD "", words.tail, env⟩).toTask

end RootedRun.Programs

namespace RootedRun.Job

def inherited : Entries :=
  [("HOME", "/root"), ("LANG", "C.UTF-8"),
    ("PATH", "/usr/local/sbin:/usr/local/bin:/usr/sbin:/usr/bin:/sbin:/bin")]

def hasNul (s : String) : Bool := '\x00' ∈ s.toList

def nulIn (l : Launch) : Bool :=
  hasNul l.program || l.args.any hasNul || l.dir.any hasNul
    || l.env.any fun e => hasNul e.1 || hasNul e.2

/-- A variable is handed over as one text, and its name then ends at the first `=` of that. -/
def received (env : Entries) : List (String × String) :=
  let named := env.foldl (fun (env : Entries) e =>
    let text := (e.1 ++ "=" ++ e.2).toList
    env.put (String.ofList (text.takeWhile (· ≠ '=')))
      (String.ofList ((text.dropWhile (· ≠ '=')).drop 1))) []
  named.map fun (name, value) => (Text.Octets.encode name, Text.Octets.encode value)

def maxSteps : Nat := 10000000

def startTime : Nat := 1000 -- microseconds

/-- A machine between two commands: what is left of those before, and where the next ones start
from. -/
structure Machine where
  world : Task.World
  cwd : List String

namespace Machine

def ofFiles (files : FileSystem) : Machine where
  world := {
    root := files.root
    opened := #[]
    pipes := #[]
    sent := []
    clock := 0
    steps := 0
    awaited := ⟨0, 0, 0, none, 0⟩
    others := []
    nextPid := 4000 }
  cwd := files.cwd

def files (m : Machine) : FileSystem := ⟨m.world.root, m.cwd, m.world.now⟩

def run (m : Machine) (cwd : List String) (origin : Task.Origin) (task : Task) (p : Waiting) :
    Behaviour × Machine :=
  let began := m.world.clock
  let limit := p.limit.map (began + ·)
  let w := m.world.run Programs.load (fun _ => false) (some (began + startTime)) maxSteps
  let w := (w.launch (FileSystem.outsiders.getLastD 0) cwd origin task).run Programs.load
    (·.isOver p.toSilence) limit maxSteps
  (⟨w.exit? p.toSilence limit, w.sentTo w.awaited.out, w.sentTo w.awaited.err, w.clock - began⟩,
    { m with world := w.stop })

end Machine

/-- The directory is entered first, then the program is looked for from there. -/
def start : Start Machine := fun m l p =>
  if nulIn l then .error .nulInCommand
  else do
    let here ← (match l.dir with
      | none => Except.ok m.files
      | some dir => m.files.enter dir).mapError IoError.os
    let own ← (l.executable here.program).mapError IoError.os
    let words := (l.program :: l.args).map Text.Octets.encode
    let env := received l.env
    if ! Task.Limits.usual.carries (words ++ Task.settings env) then
      throw (IoError.os .argumentsTooLong)
    return m.run here.cwd (.ofCall own l.program words env) (Programs.load own words env) p

theorem start_ne_cancelled (m : Machine) (l : Launch) (p : Waiting) (program : String) :
    start m l p ≠ .error (.cancelled program) := by
  intro h
  have hos {α : Type} {x : Except OsError α} {e : IoError} (hx : x.mapError IoError.os = .error e) :
      e ≠ .cancelled program := by
    cases x with
    | error => cases hx; simp
    | ok => cases hx
  unfold start at h
  split at h
  · cases h
  · simp only [bind, Except.bind, pure, Except.pure, throw, throwThe, MonadExceptOf.throw] at h
    split at h
    · next hx => cases h; exact hos hx rfl
    · split at h
      · next hx => cases h; exact hos hx rfl
      · split at h
        · cases h
        · cases h

end RootedRun.Job
