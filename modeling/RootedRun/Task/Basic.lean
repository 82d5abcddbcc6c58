import RootedRun.Files.System
import RootedRun.Invocation
import RootedRun.Task.Limits

/-!
Processes as trees: a process ends, asks the machine for something and goes on with the answer,
splits in two, or becomes another program. Programs are written in the monad of what may still be
asked before a result is there.
-/

namespace RootedRun.Bounded

def endless : Nat := 1 <<< 62

def loop [Monad m] (stuck : m α) (step : σ → m (σ ⊕ α)) : (rounds : Nat) → σ → m α
  | 0, _ => stuck
  | rounds + 1, s => do
    match ← step s with
    | .inl s => loop stuck step rounds s
    | .inr a => pure a

end RootedRun.Bounded

namespace RootedRun

namespace Task

inductive Fault
  | os : OsError → Fault
  | badDescriptor
  | brokenPipe
  | exists
  | noSpace
  | noDevice
  | tooManyOpen
  | tooLarge
  | invalid
  | interrupted

def Fault.text : Fault → String
  | .os e => e.text
  | .badDescriptor => "Bad file descriptor"
  | .brokenPipe => "Broken pipe"
  | .exists => "File exists"
  | .noSpace => "No space left on device"
  | .noDevice => "No such device or address"
  | .tooManyOpen => "Too many open files"
  | .tooLarge => "File too large"
  | .invalid => "Invalid argument"
  | .interrupted => "Interrupted system call"

inductive Mode
  | read
  | replace
  | append
  | update
  | fresh
  deriving DecidableEq

inductive Kind
  | file
  | directory
  | link
  | device
  | pipe
  deriving DecidableEq

/-- What looking at a path or an open file tells; `time` is that of the last change, and `offset` is
where reading and writing go on. -/
structure Info where
  kind : Kind
  size : Nat
  place : List String
  executable : Bool
  time : Nat
  offset : Nat

def tick : Nat := 4000 -- microseconds

inductive Reaction
  | usual
  | ignore
  | catch
  deriving DecidableEq

def leastPrivate : Nat := 10

inductive Patience
  | untilEnd
  | untilSignal
  | none
  deriving DecidableEq

inductive Waited
  | ended (pid : Nat) (exit : Exit)
  | noChild
  | notYet
  | interrupted (signal : Nat)

/-- Setting a mask, a reaction, a limit, or the signals that are blocked tells what it was before,
and nothing is set where there is nothing new. What is rewound is read and written from its start
again, and reading may be given up for a signal that is caught. -/
inductive Request
  | pause
  | read (fd most : Nat) (untilSignal : Bool)
  | write (fd : Nat) (bytes : ByteArray)
  | open (path : String) (mode : Mode)
  | duplicate (fd least : Nat)
  | redirect (fd onto : Nat)
  | close (fd : Nat)
  | rewind (fd : Nat)
  | pipe
  | now
  | sleepUntil (time : Nat)
  | wait (patience : Patience)
  | kill (pid signal : Nat)
  | react (signal : Nat) (new : Option Reaction)
  | block (new : Option (List Nat))
  | limit (resource : Resource) (new : Option Limit)
  | look (path : String) (follow : Bool)
  | lookAt (fd : Nat)
  | list (path : String)
  | enter (path : String)
  | place
  | mask (new : Option Nat)
  | family

abbrev Request.Answer : Request → Type
  | .pause | .block _ => List Nat
  | .read .. => Except Fault ByteArray
  | .write .. | .redirect .. | .enter _ => Except Fault Unit
  | .open .. | .duplicate .. => Except Fault Nat
  | .close _ | .rewind _ | .sleepUntil _ => Unit
  | .pipe => Except Fault (Nat × Nat)
  | .family => Nat × Nat
  | .limit .. => Except Limit.Fault Limit
  | .now | .mask _ => Nat
  | .react .. => Reaction
  | .wait _ => Waited
  | .kill .. => Bool
  | .look .. | .lookAt _ => Except Fault Info
  | .list _ | .place => List String

end Task

def Task.settings (env : List (String × String)) : List String :=
  env.map fun (name, value) => name ++ "=" ++ value

/-- A stalled process does not go on; one that cannot become another program goes on. A program
without a slash in its name is looked up on the `PATH` value that is given with it. The first of the
words is the name that the program is called by. -/
inductive Task
  | exit (e : Exit)
  | stall
  | ask (r : Task.Request) (next : r.Answer → Task)
  | fork (child : Task) (next : Nat → Task)
  | exec (path : Option String) (program : String) (words : List String)
      (env : List (String × String)) (next : OsError → Task)

/-- What a process does until it has an `α`, given what it does then. -/
def Act (α : Type) : Type := (α → Task) → Task

namespace Act

instance : Monad Act where
  pure a := fun next => next a
  bind x f := fun next => x fun a => f a next

def ask (r : Task.Request) : Act r.Answer := Task.ask r

def exit (e : Exit) : Act α := fun _ => .exit e

def stall : Act α := fun _ => .stall

def fork (child : Task) : Act Nat := Task.fork child

def exec (path : Option String) (program : String) (words : List String)
    (env : List (String × String)) : Act OsError :=
  Task.exec path program words env

def toTask (x : Act Nat) : Task := x fun status => .exit (.code (status % 256))

def write (fd : Nat) (bytes : ByteArray) : Act (Except Task.Fault Unit) := ask (.write fd bytes)

def repeatFrom (s : σ) (step : σ → Act (σ ⊕ α)) : Act α :=
  Bounded.loop stall step Bounded.endless s

def sleep (time : Nat) : Act Unit := do
  let now ← ask .now
  ask (.sleepUntil (now + time))

end Act

end RootedRun
