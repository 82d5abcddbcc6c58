import RootedRun.Shell.Signal
import RootedRun.Shell.State

namespace RootedRun.Shell.Jobs

def find? (n : Nat) : Sh (Option Job) := return (← get).jobs.lookup n

def change (f : List (Nat × Job) → List (Nat × Job)) : Sh Unit :=
  modify fun st => { st with jobs := f st.jobs }

def add (pids : List Nat) : Sh Nat := do
  let jobs := (← get).jobs
  let isFree (n : Nat) : Bool := match jobs.lookup n with
    | none => true
    | some j => j.isDone && j.waited
  let n := ((List.range' 1 (jobs.length + 1)).find? isFree).getD (jobs.length + 1)
  change fun jobs => (n, ⟨pids.map (·, none), false⟩) :: jobs.filter (·.1 ≠ n)
  return n

def drop (n : Nat) : Sh Unit := change (·.filter (·.1 ≠ n))

def record (pid : Nat) (e : Exit) : Sh Unit :=
  change (·.map fun (n, j) => (n, j.record pid e))

def markWaited (n : Nat) : Sh Unit :=
  change (·.map fun (m, j) => (m, if m = n then { j with waited := true } else j))

def tell : Exit → Sh Unit
  | .code _ => pure ()
  | .signal n => (Signal.text? n).forM fun t => discard (Sh.act (Tool.put 2 (t ++ "\n")))

def note (awaited : Option Job) (pid : Nat) (e : Exit) : Sh Unit := do
  record pid e
  if awaited.any (·.has pid) then tell e

def finish (n : Nat) : Sh Nat :=
  Sh.repeatFrom () fun _ => do
    match ← find? n with
    | none => return .inr 0
    | some j =>
      if j.isDone then
        drop n
        return .inr j.status
      match ← Sh.ask (.wait .untilEnd) with
      | .ended pid e =>
        note j pid e
        return .inl ()
      | _ =>
        drop n
        return .inr j.status

def unblock : Sh Unit := discard (Sh.ask (.block (some [])))

def awaitOne (awaited : Option Job) : Sh (Option Nat) := do
  let waited ← match ← Sh.ask (.wait .none) with
    | .notYet => do
      let waited ← Sh.ask (.wait .untilSignal)
      unblock
      pure waited
    | waited => pure waited
  match waited with
  | .ended pid e =>
    note awaited pid e
    return none
  | .interrupted signal => return some signal
  | _ => return none

def await (n : Nat) : Sh (Option Nat) :=
  Sh.repeatFrom () fun _ => do
    match ← find? n with
    | none => return .inr none
    | some j =>
      if j.isDone then return .inr none
      match ← awaitOne j with
      | some signal => return .inr (some signal)
      | none => return .inl ()

def awaitAll : Sh (Option Nat) :=
  Sh.repeatFrom () fun _ => do
    let jobs := (← get).jobs
    (jobs.takeWhile (·.2.isDone)).forM fun (n, _) => markWaited n
    if jobs.all (·.2.isDone) then return .inr none
    match ← awaitOne none with
    | some signal => return .inr (some signal)
    | none => return .inl ()

def collect : Sh Unit :=
  Sh.repeatFrom () fun _ => do
    match ← Sh.ask (.wait .none) with
    | .ended pid e =>
      record pid e
      return .inl ()
    | _ => return .inr ()

def named (word : String) : Sh Nat := do
  let jobs := (← get).jobs
  let missing : Sh Nat := Sh.fail ("No such job: " ++ word)
  let nth (i : Nat) (message : String) : Sh Nat := match jobs[i]? with
    | some (n, _) => pure n
    | none => Sh.fail message
  match word.toList with
  | ['%'] | ['%', '+'] | ['%', '%'] => nth 0 "No current job"
  | ['%', '-'] => nth 1 "No previous job"
  | ['%', '?'] =>
    match jobs with
    | [(n, _)] => return n
    | [] => missing
    | _ => Sh.fail (word ++ ": ambiguous")
  | '%' :: cs =>
    match Tool.Numeral.decimal? (String.ofList cs) with
    | some n => if (jobs.lookup n).isSome then return n else missing
    | none => missing
  | _ => missing

def account (jobs : List (Nat × Job)) (long : Bool) (n : Nat) (j : Job) : String :=
  let mark := if (jobs[0]?).any (·.1 = n) then "+ " else if (jobs[1]?).any (·.1 = n) then "- "
    else "  "
  let pad (least : Nat) (s : String) : String := s ++ String.ofList (List.replicate least ' ')
  let front := "[" ++ toString n ++ "] " ++ mark
  let state : String := match j.isDone, j.processes.getLast? with
    | true, some (_, some (.code 0)) => "Done"
    | true, some (_, some (.code c)) => "Done(" ++ toString c ++ ")"
    | true, some (_, some (.signal s)) => (Signal.text? s).getD ""
    | _, _ => "Running"
  let pid (p : Nat × Option Exit) : String := toString p.1 ++ " "
  match j.processes with
  | [] => ""
  | p :: ps =>
    let first := front ++ (if long then pid p else "") ++ state
    let first := pad (max 1 (33 - first.length)) first
    if long then
      let rest := ps.map fun p =>
        let s := " |\n" ++ String.ofList (List.replicate front.length ' ') ++ pid p
        pad (max 1 (33 - (s.length - 3))) s
      first ++ String.join rest ++ "\n"
    else first ++ String.join (ps.map fun _ => " | ") ++ "\n"

end RootedRun.Shell.Jobs
