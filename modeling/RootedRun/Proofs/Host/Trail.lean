import Mathlib.Data.List.Chain
import RootedRun.Host.Executor

namespace RootedRun

namespace Stack

def trail (stat : Stat) : Stack → Invocation → List (Host × Invocation)
  | [], _ => []
  | h :: below, i => (h, i) :: trail stat below ((h.prepare i).run stat).value

variable (stat : Stat)

@[simp] theorem map_fst_trail (stack : Stack) (i : Invocation) :
    (stack.trail stat i).map Prod.fst = stack := by
  induction stack generalizing i with
  | nil => rfl
  | cons h below ih => simp only [trail, List.map_cons, ih]

theorem isChain_trail (stack : Stack) (i : Invocation) :
    (stack.trail stat i).IsChain fun a b => b.2 = ((a.1.prepare a.2).run stat).value := by
  induction stack generalizing i with
  | nil => exact .nil
  | cons h below ih =>
    cases below with
    | nil => exact .singleton _
    | cons g below => exact .cons_cons rfl (ih _)

theorem events_prepare (stack : Stack) (i : Invocation) :
    ((Stack.prepare stack i).run stat).events =
      (stack.trail stat i).flatMap fun l => ((l.1.prepare l.2).run stat).events := by
  induction stack generalizing i with
  | nil => rfl
  | cons h below ih =>
    rw [run_prepare_cons, trail, List.flatMap_cons, ← ih]
    rfl

theorem asked_prepare (stack : Stack) (i : Invocation) :
    (Stack.prepare stack i).asked stat =
      (stack.trail stat i).flatMap fun l => (l.1.prepare l.2).asked stat := by
  induction stack generalizing i with
  | nil => rfl
  | cons h below ih =>
    rw [trail, List.flatMap_cons, ← ih, Stack.prepare, Probe.asked_bind, Probe.asked_map]

end Stack

end RootedRun
