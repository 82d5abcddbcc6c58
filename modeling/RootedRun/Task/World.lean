import RootedRun.Files.Machine
import RootedRun.Task.Basic
import RootedRun.Text.Octets

namespace RootedRun.Task

inductive Target
  | null
  | zero
  | full
  | file (place : List String)
  | directory (place : List String)
  | pipe (id : Nat)
  deriving DecidableEq

structure Opened where
  target : Target
  reads : Bool
  writes : Bool
  appends : Bool
  offset : Nat

def openedBy (mode : Mode) (target : Target) : Opened where
  target := target
  reads := mode = .read ∨ mode = .update
  writes := mode ≠ .read
  appends := mode = .append
  offset := 0

structure Pipe where
  bytes : ByteArray
  taken : Nat
  outside : Bool

def Pipe.empty : Pipe := ⟨.empty, 0, false⟩

structure Slot where
  fd : Nat
  opened : Nat
  isPrivate : Bool

structure Origin where
  path : String
  name : String
  words : ByteArray
  env : ByteArray

def Origin.ofCall (path called : String) (words : List String) (env : List (String × String)) :
    Origin :=
  let told (texts : List String) : ByteArray :=
    Text.Octets.toBytes (String.join (texts.map (· ++ "\x00")))
  ⟨path, (Path.names called).getLastD "", told words, told (settings env)⟩

/-- `pending` are signals that were caught and not told of yet, and `held` those that do not get
through as long as they are `blocked` or the process is halted. `spent` is how long it has been at
work. -/
structure Process where
  pid : Nat
  parent : Nat
  origin : Origin
  task : Task
  slots : List Slot
  cwd : List String
  mask : Nat
  ignored : List Nat
  caught : List Nat
  pending : List Nat
  blocked : List Nat
  held : List Nat
  limits : Limits
  spent : Nat
  halted : Bool
  ended : Option Exit

structure Awaited where
  pid : Nat
  out : Nat
  err : Nat
  finished : Option (Exit × Nat)
  silent : Nat

/-- `others` are the processes but for the one whose turn it is, and `steps` counts what that one
has done in its turn. `sent` is what has been written to pipes that lead outside, the last first.
Time is in microseconds. -/
structure World where
  root : Node
  opened : Array Opened
  pipes : Array Pipe
  sent : List (Nat × ByteArray)
  clock : Nat
  steps : Nat
  awaited : Awaited
  others : List Process
  nextPid : Nat

namespace Process

def slot? (p : Process) (fd : Nat) : Option Slot := p.slots.find? (·.fd = fd)

def close (p : Process) (fd : Nat) : Process :=
  { p with slots := p.slots.filter (·.fd ≠ fd) }

def assign (p : Process) (fd opened : Nat) (isPrivate : Bool) : Process :=
  { p with slots := ⟨fd, opened, isPrivate⟩ :: (p.close fd).slots }

def freeFrom (p : Process) (least : Nat) : Nat :=
  ((List.range (p.slots.length + 1)).map (least + ·)).find? (p.slot? · |>.isNone)
    |>.getD least

def admits (p : Process) (fd : Nat) : Bool := (p.limits.of .descriptors).soft.all (fd < ·)

def available? (p : Process) (least : Nat) : Option Nat :=
  let fd := p.freeFrom least
  if p.admits fd then some fd else none

def reaction (p : Process) (signal : Nat) : Reaction :=
  if p.ignored.contains signal then .ignore
  else if p.caught.contains signal then .catch else .usual

def childEnded : Nat := 17

def unnoticed : List Nat :=
  -- nobody could have a process go on again that a terminal has halted
  [childEnded, 18, 20, 21, 22, 23, 28]

def yield (p : Process) (signal : Nat) : Process :=
  if p.ignored.contains signal then p
  else if p.caught.contains signal then
    { p with pending := p.pending.filter (· ≠ signal) ++ [signal] }
  else if unnoticed.contains signal then p
  else { p with ended := some (.signal signal) }

def accept (p : Process) (signal : Nat) : Process :=
  if p.ended.isSome then p
  else if p.halted ∨ p.blocked.contains signal then
    { p with held := signal :: p.held.filter (· ≠ signal) }
  else p.yield signal

def release (p : Process) : Process :=
  (p.held.mergeSort (· ≤ ·)).foldl accept { p with held := [] }

def receive (p : Process) (signal : Nat) : Process :=
  if p.ended.isSome ∨ signal = 0 then p
  else if signal = 9 then { p with ended := some (.signal 9) }
  else if signal = 18 then
    { p with halted := false, held := 18 :: p.held }.release
  else if signal = 19 then { p with halted := true }
  else p.accept signal

def round : Nat := 4000 -- microseconds

def second : Nat := 1000000

/-- A process that has been at work for too long is told so, and again every second, until there is
an end. -/
def work (p : Process) (time : Nat) : Process :=
  let p := { p with spent := p.spent + time }
  let isOver (limit : Nat) : Bool := round ≤ p.spent && limit * second ≤ p.spent
  match p.limits.of .time with
  | ⟨none, _⟩ => p
  | ⟨some soft, hard⟩ =>
    if hard.any isOver then p.receive 9
    else if isOver soft then
      { p with limits := p.limits.put .time ⟨some (soft + 1), hard⟩ }.receive 24
    else p

def react (p : Process) (signal : Nat) (new : Reaction) : Process :=
  let isLost := new = .ignore || (new = .usual && unnoticed.contains signal)
  { p with
    ignored := (if new = .ignore then [signal] else []) ++ p.ignored.filter (· ≠ signal)
    caught := (if new = .catch then [signal] else []) ++ p.caught.filter (· ≠ signal)
    held := p.held.filter fun n => ! (isLost && n = signal) }

def block (p : Process) (signals : List Nat) : Process :=
  { p with blocked := signals.filter (! [9, 19].contains ·) }.release

end Process

def nodeAt? (n : Node) : List String → Option Node
  | [] => some n
  | name :: rest => (n.entry? name).bind (nodeAt? · rest)

namespace World

def now (w : World) : Nat := w.clock / tick + 1

def hasOpen (w : World) (p : Process) (f : Opened → Bool) : Bool :=
  p.slots.any fun s => (w.opened[s.opened]?).any f

def pipeHas (w : World) (p : Process) (id : Nat) (writing : Bool) : Bool :=
  (p :: w.others).any fun q => q.ended.isNone && w.hasOpen q fun o =>
    o.target = .pipe id && (if writing then o.writes else o.reads)

def withOffset (w : World) (i : Nat) (offset : Nat) : World :=
  { w with opened := w.opened.modify i fun o => { o with offset } }

def withPipe (w : World) (id : Nat) (pipe : Pipe) : World :=
  { w with pipes := w.pipes.set! id pipe }

def openedAt? (w : World) (p : Process) (fd : Nat) : Option (Nat × Opened) := do
  let s ← p.slot? fd
  return (s.opened, ← w.opened[s.opened]?)

def sentTo (w : World) (id : Nat) : ByteArray :=
  w.sent.reverse.foldl (fun bytes s => if s.1 = id then bytes ++ s.2 else bytes) .empty

end World

end RootedRun.Task
