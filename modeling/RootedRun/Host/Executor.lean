import RootedRun.Host.Basic
import RootedRun.Invocation

namespace RootedRun

/-- The outermost host comes first. -/
abbrev Stack := List Host

structure Call where
  invocation : Invocation
  token : Option Token
  deriving DecidableEq

def Stack.prepare : Stack → Invocation → Probe (Logged Invocation)
  | [], i => .done (.quiet i)
  | h :: below, i =>
    (h.prepare i).bind fun l => (Stack.prepare below l.value).map fun m => l.bind fun _ => m

theorem Stack.run_prepare_cons (stat : Stat) (h : Host) (below : Stack) (i : Invocation) :
    (Stack.prepare (h :: below) i).run stat =
      ((h.prepare i).run stat).bind fun j => (Stack.prepare below j).run stat := by
  simp [Stack.prepare, Logged.bind]

/-- `σ` is what an executor keeps between two commands, `α` what it makes of one. -/
structure Executor (σ α : Type u) where
  command : Invocation → σ → Probe (Logged (σ × α))
  commandWith : Token → Invocation → σ → Probe (Logged (σ × α))

namespace Executor

variable {σ α : Type u}

def recorder : Executor (List Call) Call where
  command i calls := .done (.quiet (calls ++ [⟨i, none⟩], ⟨i, none⟩))
  commandWith t i calls := .done (.quiet (calls ++ [⟨i, some t⟩], ⟨i, some t⟩))

def behind (e : Executor σ α) (h : Host) : Executor σ α where
  command i s := (h.prepare i).bind fun l => (e.command l.value s).map fun m => l.bind fun _ => m
  commandWith t i s :=
    (h.prepare i).bind fun l => (e.commandWith t l.value s).map fun m => l.bind fun _ => m

def below (e : Executor σ α) (stack : Stack) : Executor σ α := stack.foldr (fun h e => e.behind h) e

def submit (e : Executor σ α) (i : Invocation) : Option Token → σ → Probe (Logged (σ × α))
  | none => e.command i
  | some t => e.commandWith t i

variable (e : Executor σ α) (stat : Stat)

theorem run_submit_behind (h : Host) (i : Invocation) (token : Option Token) (s : σ) :
    ((e.behind h).submit i token s).run stat =
      ((h.prepare i).run stat).bind fun j => (e.submit j token s).run stat := by
  cases token <;> simp [submit, behind, Logged.bind]

theorem run_submit_below (stack : Stack) (i : Invocation) (token : Option Token) (s : σ) :
    ((e.below stack).submit i token s).run stat =
      ((Stack.prepare stack i).run stat).bind fun j => (e.submit j token s).run stat := by
  induction stack generalizing i with
  | nil => rfl
  | cons h stack ih =>
    -- what is below the host is one executor, and the host is in front of that
    rw [Stack.run_prepare_cons, Logged.bind_assoc]
    simp only [← ih]
    exact run_submit_behind ..

end Executor

end RootedRun
