import RootedRun.Invocation
import RootedRun.Error

/-!
Starting a command and waiting for it while its token may be cancelled. The child may end and the
token may be cancelled at any moment or never; whoever waits takes up one of the two once it has
happened. An event that cannot happen in a state has no next state.
-/

namespace RootedRun

/-- A captured run lets go of the child when it is cancelled, which kills it; a plain run kills the
child itself and sees to its end. -/
inductive WaitMode
  | captured
  | plain
  deriving DecidableEq

inductive Child
  | unstarted
  | running
  | ended (exit : Exit)
  | killed
  deriving DecidableEq

def Child.kill : Child → Child
  | running => killed
  | c => c

@[simp] theorem Child.kill_eq_unstarted {c : Child} : c.kill = unstarted ↔ c = unstarted := by
  cases c <;> simp [kill]

@[simp] theorem Child.kill_eq_ended {c : Child} {exit : Exit} :
    c.kill = ended exit ↔ c = ended exit := by
  cases c <;> simp [kill]

/-- `admitted` tells that the token was looked at and let the command start, `reaped` that nothing
is left of the child, and `stopping` that a plain run is about to kill it. -/
structure Watch where
  program : String
  mode : WaitMode
  hasToken : Bool
  cancelled : Bool
  admitted : Bool
  child : Child
  reaped : Bool
  stopping : Bool
  result : Option (Except IoError Exit)

namespace Watch

inductive Event
  | cancel
  | check
  | spawn (failure : Option IoError)
  | childEnds (exit : Exit)
  | collect
  | notice
  | kill (failure : Option IoError)

def start (program : String) (mode : WaitMode) (hasToken : Bool) : Watch :=
  ⟨program, mode, hasToken, false, false, .unstarted, false, false, none⟩

def interrupted (w : Watch) : Except IoError Exit := .error (.cancelled w.program)

def calledOff (w : Watch) : Bool := w.hasToken && w.cancelled

/-- The state after an event, if the event can happen. For a captured run `childEnds` is the end of the
child together with the end of its output, which what the child has started may keep open. -/
def next (w : Watch) : Event → Option Watch
  | .cancel => some { w with cancelled := true }
  | .check =>
    if w.result.isNone ∧ ¬ w.admitted then
      if w.calledOff then some { w with result := some w.interrupted }
      else some { w with admitted := true }
    else none
  | .spawn failure =>
    if w.result.isNone ∧ w.admitted ∧ w.child = .unstarted then
      match failure with
      | none => some { w with child := .running }
      | some e => some { w with result := some (.error e) }
    else none
  | .childEnds e => if w.child = .running then some { w with child := .ended e } else none
  | .collect =>
    match w.result, w.stopping, w.child with
    | none, false, .ended e => some { w with reaped := true, result := some (.ok e) }
    | _, _, _ => none
  | .notice =>
    if w.result.isNone ∧ ¬ w.stopping ∧ w.child ≠ .unstarted ∧ w.calledOff then
      match w.mode with
      | .captured => some { w with child := w.child.kill, result := some w.interrupted }
      | .plain => some { w with stopping := true }
    else none
  | .kill failure =>
    if w.result.isNone ∧ w.stopping then
      match failure with
      | none =>
        some { w with child := w.child.kill, reaped := true, result := some w.interrupted }
      | some e => some { w with result := some (.error e) }
    else none

def run (w : Watch) : List Event → Option Watch
  | [] => some w
  | e :: es => (w.next e).bind (·.run es)

end Watch

end RootedRun
