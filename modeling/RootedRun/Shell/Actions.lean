import RootedRun.Shell.Expand
import RootedRun.Shell.Jobs

namespace RootedRun.Shell

namespace Actions

def ending : Nat := 0

def runFor (r : Runner) (status : Nat) : List Nat → Sh Unit
  | [] => pure ()
  | signal :: signals => do
    let st ← get
    if st.skip.isSome then set { st with due := signal :: signals }
    else
      (st.traps.lookup signal).forM fun action => do
        discard (r.text false action)
        if (← get).skip ≠ some (.back true) then Sh.setStatus status
      runFor r status signals

def ofChildren : Nat := 17

def react (signal : Nat) (reaction : Task.Reaction) : Sh Unit := do
  let st ← get
  let reaction := if signal = ofChildren ∧ reaction = .ignore then .usual else reaction
  unless signal = ending ∨ st.fixed.contains signal do
    let before ← Sh.ask (.react signal (some reaction))
    if before = .ignore ∧ ¬ st.known.contains signal then
      discard (Sh.ask (.react signal (some .ignore)))
      modify fun st => { st with fixed := signal :: st.fixed }
    modify fun st => { st with known := signal :: st.known }

def interruption : Nat := 2

def attended : List (Nat × Task.Reaction) :=
  [(interruption, .catch), (3, .ignore), (15, .ignore)]

def withoutAction (st : State) (signal : Nat) : Task.Reaction :=
  if st.attended then (attended.lookup signal).getD .usual
  else if st.patient ∧ ¬ st.apart ∧ signal = interruption then .catch else .usual

def attend : Sh Unit := do
  let on ← Sh.isOn 'i'
  let st ← get
  if st.apart ∨ on = st.attended then return
  set { st with attended := on }
  attended.forM fun (signal, _) => do
    if (st.traps.lookup signal).isNone then react signal (withoutAction (← get) signal)

def interrupt : Sh Unit := do
  Sh.setStatus (statusOf (.signal interruption))
  if (← get).attended then Sh.stop .interrupt
  discard (Sh.ask (.react interruption (some .usual)))
  discard (Sh.ask (.kill (← Sh.ask .family).1 interruption))
  Sh.stop .done

def notice : Sh Unit := do
  let caught ← Sh.ask .pause
  let st ← get
  if caught.contains interruption ∧ (st.traps.lookup interruption).isNone then interrupt
  set { st with due := st.due ++ caught.filter (! st.due.contains ·) }

def run (r : Runner) : Sh Unit := do
  notice
  let st ← get
  unless st.due.isEmpty ∨ st.skip.isSome do
    let status := st.saved.getD st.status
    set { st with due := [], saved := some status }
    runFor r status (st.due.mergeSort (· ≤ ·))
    modify fun st' => { st' with saved := st.saved }

def finish (n : Nat) : Sh Nat := do
  let status ← Jobs.finish n
  notice
  return status

def areThere : Sh Bool := return (← get).traps.any (·.2 ≠ "")

def last (r : Runner) : StateT State Act Nat := do
  let st ← get
  match st.traps.lookup ending with
  | none => return st.status
  | some action =>
    let traps := st.traps.filter (·.1 ≠ ending)
    set { st with traps, saved := some st.status, skip := none }
    let how ← (r.text false action).run
    let st ← get
    return match how with
    | .ok _ | .error .exit => st.saved.getD st.status
    | .error _ => st.status

def whole (r : Runner) (body : Sh Unit) (st : State) : Act Nat := do
  let (how, st) ← body.run.run st
  let status := match how with
    | .error .exit => st.saved.getD st.status
    | _ => st.status
  let (status, _) ← (last r).run { st with status, saved := none, skip := none, loops := 0 }
  return status

end Actions

namespace Fork

def react (signal : Nat) (reaction : Task.Reaction) : Sh Unit :=
  discard (Sh.ask (.react signal (some reaction)))

def settle : Sh Unit := do
  let st ← get
  let (ignored, actions) := st.traps.partition (·.2 = "")
  (actions.filter (·.1 ≠ Actions.ending)).forM fun a => react a.1 .usual
  if st.attended then
    Actions.attended.forM fun (signal, _) => do
      if (ignored.lookup signal).isNone ∧ ¬ st.fixed.contains signal then react signal .usual
  set { st with apart := true, attended := false, traps := ignored, due := [], jobs := [] }

def detach (first : Bool) : Sh Unit := do
  [2, 3].forM fun signal => react signal .ignore
  modify fun st => { st with fixed := [2, 3] ++ st.fixed }
  if first then
    Sh.ask (.close 0)
    if let .error f ← Sh.ask (.open "/dev/null" .read) then
      Sh.fail ("cannot open /dev/null: " ++ f.text)

def start (r : Runner) (prepare body : Sh Unit) : Sh Nat := do
  let st ← get
  let child := Actions.whole r (do settle; prepare; body) st
  Sh.act (Act.fork child.toTask)

end Fork

end RootedRun.Shell
