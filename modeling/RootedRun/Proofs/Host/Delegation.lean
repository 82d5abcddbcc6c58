import Mathlib.Data.List.Basic
import RootedRun.Host.Executor
import RootedRun.Host.Session

namespace RootedRun

def Invocation.append (i : Invocation) (args : List String) : Invocation :=
  { i with args := i.args ++ args }

namespace Host

variable (h : Host) (stat : Stat) (i : Invocation) (args : List String)

theorem rename_append : h.rename (i.append args) = (h.rename i).map (·.append args) := by
  unfold rename Invocation.append
  cases h.aliases.resolve i.program <;> rfl

theorem settle_append (p : Placement) : h.settle (i.append args) p = (h.settle i p).append args := by
  cases p <;> rfl

theorem run_qualify_append :
    (h.qualify (i.append args)).run stat = ((h.qualify i).run stat).map (·.append args) := by
  simp only [qualify, Probe.run_map, settle_append]
  rfl

theorem confine_append : h.confine (i.append args) = (h.confine i).map (·.append args) := by
  unfold confine
  cases h.root <;> rfl

theorem run_prepare_append :
    (h.prepare (i.append args)).run stat = ((h.prepare i).run stat).map (·.append args) := by
  simp only [prepare, Probe.run_map, rename_append, Logged.map, run_qualify_append, Logged.bind,
    confine_append]

end Host

namespace Stack

theorem run_prepare_append (stack : Stack) (stat : Stat) (i : Invocation) (args : List String) :
    (Stack.prepare stack (i.append args)).run stat =
      ((Stack.prepare stack i).run stat).map (·.append args) := by
  induction stack generalizing i with
  | nil => rfl
  | cons h below ih =>
    simp only [run_prepare_cons, Host.run_prepare_append, Logged.map, Logged.bind, ih]

theorem value_prepare_eq_append (stack : Stack) (stat : Stat) (i : Invocation) :
    ((Stack.prepare stack i).run stat).value =
      ((Stack.prepare stack ⟨i.program, []⟩).run stat).value.append i.args := by
  -- a command is one without arguments to which all of its arguments have been appended
  have hi : i = Invocation.append ⟨i.program, []⟩ i.args := rfl
  conv => lhs; rw [hi, run_prepare_append]
  rfl

end Stack

namespace Session

theorem step_searchPath (s : Session) (dirs : Option (List String)) :
    ∃ p, (s.step (.searchPath dirs)).1 = { s with host := s.host.withSearchPath p } := by
  cases dirs with
  | none => exact ⟨.standard, rfl⟩
  | some dirs =>
    simp only [step]
    cases SearchPath.ofList dirs with
    | error e => exact ⟨s.host.searchPath, rfl⟩
    | ok p => exact ⟨p, rfl⟩

def call? (s : Session) : Step → Option Call
  | .command i token => some ⟨((Stack.prepare (s.host :: s.below) i).run s.stat).value, token⟩
  | .inner i => some ⟨((Stack.prepare s.below i).run s.stat).value, none⟩
  | _ => none

theorem calls_step (s : Session) (step : Step) :
    (s.step step).1.calls = s.calls ++ (s.call? step).toList := by
  cases step with
  | command i token => rfl
  | inner i => rfl
  | searchPath dirs =>
    obtain ⟨p, hp⟩ := s.step_searchPath dirs
    simp [hp, call?]
  | _ => simp [Session.step, call?]

def history (s : Session) : List Step → List (Session × Step)
  | [] => []
  | step :: steps => (s, step) :: (s.step step).1.history steps

theorem getElem?_history (s : Session) (steps : List Step) (k : Nat) :
    (s.history steps)[k]? = steps[k]?.map fun step => ((s.run (steps.take k)).1, step) := by
  induction steps generalizing s k with
  | nil => rfl
  | cons step steps ih =>
    cases k with
    | zero => rfl
    | succ k => exact ih _ k

theorem length_answers (s : Session) (steps : List Step) :
    (s.run steps).2.length = steps.length := by
  induction steps generalizing s with
  | nil => rfl
  | cons step steps ih => exact congrArg (· + 1) (ih _)

theorem getElem?_answers (s : Session) (steps : List Step) (k : Nat) :
    (s.run steps).2[k]? = steps[k]?.map fun step => ((s.run (steps.take k)).1.step step).2 := by
  induction steps generalizing s k with
  | nil => rfl
  | cons step steps ih =>
    cases k with
    | zero => rfl
    | succ k => exact ih _ k

theorem calls_run (s : Session) (steps : List Step) :
    (s.run steps).1.calls = s.calls ++ (s.history steps).filterMap fun (t, step) => t.call? step := by
  induction steps generalizing s with
  | nil => simp [run, history]
  | cons step steps ih =>
    simp only [run, history, ih, calls_step, List.append_assoc]
    cases h : s.call? step <;> simp [h]

theorem mem_cancelled_step {s : Session} {step : Step} {t : Token} :
    t ∈ (s.step step).1.cancelled ↔ t ∈ s.cancelled ∨ .cancel t = step := by
  cases step with
  | cancel t' => simp [Session.step, Cancelled.add, or_comm]
  | searchPath dirs =>
    obtain ⟨p, hp⟩ := s.step_searchPath dirs
    simp [hp]
  | _ => simp [Session.step, deliver]

theorem mem_cancelled_run {s : Session} {steps : List Step} {t : Token} :
    t ∈ (s.run steps).1.cancelled ↔ t ∈ s.cancelled ∨ .cancel t ∈ steps := by
  induction steps generalizing s with
  | nil => simp [run]
  | cons step steps ih => simp only [run, ih, mem_cancelled_step, List.mem_cons, or_assoc]

theorem covers_eq_true {c : Cancelled} {token : Option Token} :
    c.covers token = true ↔ ∃ t, token = some t ∧ t ∈ c := by
  cases token <;> simp [Cancelled.covers]

theorem deliver_eq_submit (s : Session) (stack : Stack) (i : Invocation) (token : Option Token) :
    s.deliver stack i token =
      let made := ((Executor.recorder.below stack).submit i token s.calls).run s.stat
      ({ s with calls := made.value.1 }, made.map fun m => .call m.2) := by
  rw [Executor.run_submit_below]
  cases token <;> simp [deliver, Executor.submit, Executor.recorder, Probe.run, Logged.bind,
    Logged.map, Logged.quiet]

/-- One call for each command and none for any other step. What is put in front of the arguments
depends on the stack, the files of that moment and the name alone; the token is the one that came
with the command, so it is seen to be cancelled when that is. A command without a token and one with
a token go through the hosts by ways of their own, to the same end. -/
theorem delegated_calls (s : Session) (steps : List Step) :
    let front (stack : Stack) (stat : Stat) (name : String) : Invocation :=
      ((Stack.prepare stack ⟨name, []⟩).run stat).value
    let handed (stack : Stack) (stat : Stat) (i : Invocation) : Invocation :=
      ⟨(front stack stat i.program).program, (front stack stat i.program).args ++ i.args⟩
    let after := (s.run steps).1
    (∀ k, (s.history steps)[k]? = steps[k]?.map fun step => ((s.run (steps.take k)).1, step)) ∧
    after.calls = s.calls ++ (s.history steps).filterMap (fun (t, step) =>
      match step with
      | .command i token => some ⟨handed (t.host :: t.below) t.stat i, token⟩
      | .inner i => some ⟨handed t.below t.stat i, none⟩
      | _ => none) ∧
    (∀ c : Call, after.cancelled.covers c.token = true ↔
      ∃ t, c.token = some t ∧ (t ∈ s.cancelled ∨ .cancel t ∈ steps)) ∧
    ∀ (t : Session) (i : Invocation) (token : Token),
      let e := Executor.recorder.below (t.host :: t.below)
      let inner := Executor.recorder.below t.below
      let noted (made : Logged (List Call × Call)) : Session × Logged Answer :=
        ({ t with calls := made.value.1 }, made.map fun m => .call m.2)
      t.step (.command i none) = noted ((e.command i t.calls).run t.stat) ∧
      t.step (.command i (some token)) = noted ((e.commandWith token i t.calls).run t.stat) ∧
      t.step (.inner i) = noted ((inner.command i t.calls).run t.stat) := by
  intro front handed after
  have hhanded (stack : Stack) (stat : Stat) (i : Invocation) :
      ((Stack.prepare stack i).run stat).value = handed stack stat i :=
    Stack.value_prepare_eq_append ..
  refine ⟨getElem?_history s steps, ?_, fun c => ?_, fun t i token =>
    ⟨t.deliver_eq_submit _ i none, t.deliver_eq_submit _ i (some token),
      t.deliver_eq_submit _ i none⟩⟩
  · rw [calls_run]
    refine congrArg (s.calls ++ ·) (List.filterMap_congr fun (t, step) _ => ?_)
    cases step <;> simp only [call?, hhanded]
  · simp only [covers_eq_true, after, mem_cancelled_run]

end Session

end RootedRun
