import RootedRun.Files.Stat

/-!
Looking for things in a file system: a computation that asks yes-or-no questions about single paths
and goes on with the answers. It knows nothing else of the files, so two file systems that answer
the questions it asks alike cannot be told apart.
-/

namespace RootedRun

inductive Query
  | missing (path : String)
  | reachable (path : String)
  deriving DecidableEq

def Query.path : Query → String
  | .missing p | .reachable p => p

def Query.answer (stat : Stat) : Query → Bool
  | .missing p => stat.missing p
  | .reachable p => stat.succeeds p

inductive Probe (α : Type u)
  | done : α → Probe α
  | ask : Query → (Bool → Probe α) → Probe α

namespace Probe

variable {α : Type u} {β : Type v}

def run (stat : Stat) : Probe α → α
  | done a => a
  | ask q next => (next (q.answer stat)).run stat

def asked (stat : Stat) : Probe α → List Query
  | done _ => []
  | ask q next => q :: (next (q.answer stat)).asked stat

def bind (p : Probe α) (f : α → Probe β) : Probe β :=
  match p with
  | done a => f a
  | ask q next => ask q fun b => (next b).bind f

def map (f : α → β) (p : Probe α) : Probe β := p.bind fun a => done (f a)

@[simp] theorem run_bind (stat : Stat) (p : Probe α) (f : α → Probe β) :
    (p.bind f).run stat = (f (p.run stat)).run stat := by
  induction p with
  | done a => rfl
  | ask q next ih => exact ih _

@[simp] theorem run_map (stat : Stat) (f : α → β) (p : Probe α) :
    (p.map f).run stat = f (p.run stat) := by
  simp [map, run]

@[simp] theorem asked_bind (stat : Stat) (p : Probe α) (f : α → Probe β) :
    (p.bind f).asked stat = p.asked stat ++ (f (p.run stat)).asked stat := by
  induction p with
  | done a => rfl
  | ask q next ih => simp [bind, asked, run, ih]

@[simp] theorem asked_map (stat : Stat) (f : α → β) (p : Probe α) :
    (p.map f).asked stat = p.asked stat := by
  simp [map, asked]

theorem run_congr {stat stat' : Stat} {p : Probe α}
    (h : ∀ q ∈ p.asked stat, q.answer stat = q.answer stat') :
    p.run stat = p.run stat' ∧ p.asked stat = p.asked stat' := by
  induction p with
  | done a => exact ⟨rfl, rfl⟩
  | ask q next ih =>
    have hq : q.answer stat = q.answer stat' := h q (List.mem_cons_self ..)
    have ⟨hr, ha⟩ := ih (q.answer stat) fun q' hq' => h q' (List.mem_cons_of_mem _ hq')
    simp only [run, asked]
    rw [← hq]
    exact ⟨hr, congrArg (q :: ·) ha⟩

end Probe

end RootedRun
