import RootedRun.Job.Request
import RootedRun.Job.Watch

/-!
Working with requests and copies of them that share tokens, on a machine that is given as a
function: it tells what a launch does and how it leaves the machine.
-/

namespace RootedRun

/-- What a started command does while it is waited for: how it ends, if it does, what it has written
by then, and how long all that takes in microseconds. -/
structure Behaviour where
  exit : Option Exit
  out : ByteArray
  err : ByteArray
  time : Nat

/-- How long a started command is waited for: `toSilence` asks for the end of its output too, and
after `limit` microseconds nothing is waited for. -/
structure Waiting where
  toSilence : Bool
  limit : Option Nat
  deriving DecidableEq

def Waiting.spent (p : Waiting) (b : Behaviour) : Nat :=
  match b.exit with
  | some _ => b.time
  | none => max b.time (p.limit.getD 0)

abbrev Start (σ : Type u) := σ → Launch → Waiting → Except IoError (Behaviour × σ)

namespace Job

/-- Output can be captured, left where it goes, or left there with no eye on the token. -/
inductive How
  | output
  | run
  | spawn
  deriving DecidableEq

inductive Step
  | change (handle : Nat) (c : Request.Change)
  | clone (handle : Nat)
  | cancel (token : Token)
  | start (handle : Nat) (how : How) (cancelAfter : Option Nat)

inductive Answer
  | done
  | finished (exit : Exit) (out err : ByteArray)
  | failed : IoError → Answer

/-- `alarms` are tokens with the moments at which they will be cancelled, on a clock that counts
microseconds. -/
structure Session (σ : Type u) where
  handles : List Request
  cancelled : Cancelled
  started : List Launch
  machine : σ
  clock : Nat
  alarms : List (Token × Nat)

def How.minds (how : How) (token : Option Token) : Bool := token.isSome && how ≠ .spawn

def How.mode : How → WaitMode
  | .output => .captured
  | _ => .plain

def How.waiting (how : How) (token : Option Token) (left : Option Nat) : Waiting where
  toSilence := how = .output
  limit := if how.minds token then left else none

/-- Once the command runs, either it ends first or its token is cancelled first. -/
def events (mode : WaitMode) (b : Behaviour) : List Watch.Event :=
  .check :: .spawn none :: match b.exit with
    | some e => [.childEnds e, .collect]
    | none => .cancel :: .notice :: match mode with
      | .captured => []
      | .plain => [.kill none]

/-- The result of waiting; a command that does not end and is not cancelled has none. -/
def await (program : String) (how : How) (token : Option Token) (b : Behaviour) : Answer :=
  let w := Watch.start program how.mode (how.minds token)
  match (w.run (events how.mode b)).bind (·.result) with
  | some (.ok e) => .finished e b.out b.err
  | some (.error e) => .failed e
  | none => .done

theorem await_of_exit {b : Behaviour} {exit : Exit} (h : b.exit = some exit) (program : String)
    (how : How) (token : Option Token) : await program how token b = .finished exit b.out b.err := by
  simp [await, events, h, Watch.run, Watch.next, Watch.start, Watch.calledOff]

theorem await_of_minds {b : Behaviour} {how : How} {token : Option Token} (h : b.exit = none)
    (hm : how.minds token = true) (program : String) :
    await program how token b = .failed (.cancelled program) := by
  cases hmode : how.mode <;>
    simp [await, events, h, hm, hmode, Watch.run, Watch.next, Watch.start, Watch.calledOff,
      Watch.interrupted]

theorem await_of_not_minds {b : Behaviour} {how : How} {token : Option Token} (h : b.exit = none)
    (hm : how.minds token = false) (program : String) : await program how token b = .done := by
  simp [await, events, h, hm, Watch.run, Watch.next, Watch.start, Watch.calledOff]

namespace Session

variable {σ : Type u}

def ofRequest (r : Request) (machine : σ) : Session σ := ⟨[r], [], [], machine, 0, []⟩

def setAlarm (s : Session σ) (t : Token) (after : Nat) : Session σ :=
  { s with alarms := (t, s.clock + after * 1000) :: s.alarms }

def setAlarm? (s : Session σ) (token : Option Token) (after : Option Nat) : Session σ :=
  match token, after with
  | some t, some after => s.setAlarm t after
  | _, _ => s

def left (s : Session σ) (t : Token) : Option Nat :=
  ((s.alarms.filter (·.1 = t)).map (·.2 - s.clock)).min?

def pass (s : Session σ) (time : Nat) : Session σ :=
  let clock := s.clock + time
  let (due, alarms) := s.alarms.partition (·.2 ≤ clock)
  { s with clock, alarms, cancelled := due.foldl (fun c a => c.add a.1) s.cancelled }

/-- Tokens are cancelled in time even where nobody waits or nothing could be started. -/
def launchOn (start : Start σ) (inherited : Entries) (s : Session σ) (r : Request) (how : How)
    (cancelAfter : Option Nat) : Session σ × Answer :=
  if s.cancelled.covers r.token then (s, .failed (.cancelled r.invocation.program))
  else
    let s := s.setAlarm? r.token cancelAfter
    let l := r.launch inherited
    let p := how.waiting r.token (r.token.bind s.left)
    match start s.machine l p with
    | .error e => (s, .failed e)
    | .ok (b, machine) =>
      ({ s with machine, started := s.started ++ [l] }.pass (p.spent b),
        await r.invocation.program how r.token b)

def step (start : Start σ) (inherited : Entries) (s : Session σ) : Step → Session σ × Answer
  | .change i c => ({ s with handles := s.handles.modify i (·.apply c) }, .done)
  | .clone i =>
    match s.handles[i]? with
    | none => (s, .done)
    | some r => ({ s with handles := s.handles ++ [r] }, .done)
  | .cancel t => ({ s with cancelled := s.cancelled.add t }, .done)
  | .start i how cancelAfter =>
    match s.handles[i]? with
    | none => (s, .done)
    | some r => s.launchOn start inherited r how cancelAfter

def run (start : Start σ) (inherited : Entries) (s : Session σ) :
    List Step → Session σ × List Answer
  | [] => (s, [])
  | st :: sts =>
    let (s', a) := s.step start inherited st
    let (s'', as) := s'.run start inherited sts
    (s'', a :: as)

end Session

end Job

end RootedRun
