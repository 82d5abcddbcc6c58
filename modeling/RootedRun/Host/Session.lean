import RootedRun.Host.Setup
import RootedRun.Host.Executor

namespace RootedRun

inductive Step
  | rename (i : Invocation)
  | qualify (i : Invocation)
  | confine (i : Invocation)
  | prepare (i : Invocation)
  | command (i : Invocation) (token : Option Token)
  | inner (i : Invocation)
  | searchPath (dirs : Option (List String))
  | files (stat : Stat)
  | cancel (token : Token)

inductive Answer
  | invocation : Invocation → Answer
  | call : Call → Answer
  | host : Host → Answer
  | refused : SetupError → Answer
  | nothing
  deriving DecidableEq

structure Session where
  host : Host
  below : Stack
  stat : Stat
  calls : List Call
  cancelled : Cancelled

namespace Session

def start (host : Host) (below : Stack) (stat : Stat) : Session := ⟨host, below, stat, [], []⟩

def deliver (s : Session) (stack : Stack) (i : Invocation) (token : Option Token) :
    Session × Logged Answer :=
  let l := (stack.prepare i).run s.stat
  let c : Call := ⟨l.value, token⟩
  ({ s with calls := s.calls ++ [c] }, l.map fun _ => .call c)

def step (s : Session) : Step → Session × Logged Answer
  | .rename i => (s, (s.host.rename i).map .invocation)
  | .qualify i => (s, ((s.host.qualify i).run s.stat).map .invocation)
  | .confine i => (s, (s.host.confine i).map .invocation)
  | .prepare i => (s, ((s.host.prepare i).run s.stat).map .invocation)
  | .command i token => s.deliver (s.host :: s.below) i token
  | .inner i => s.deliver s.below i none
  | .searchPath none =>
    let h := s.host.withSearchPath .standard
    ({ s with host := h }, .quiet (.host h))
  | .searchPath (some dirs) =>
    match SearchPath.ofList dirs with
    | .error e => (s, .quiet (.refused e))
    | .ok p =>
      let h := s.host.withSearchPath p
      ({ s with host := h }, .quiet (.host h))
  | .files stat => ({ s with stat }, .quiet .nothing)
  | .cancel t => ({ s with cancelled := s.cancelled.add t }, .quiet .nothing)

def run (s : Session) : List Step → Session × List (Logged Answer)
  | [] => (s, [])
  | st :: sts =>
    let (s', a) := s.step st
    let (s'', as) := s'.run sts
    (s'', a :: as)

end Session

end RootedRun
