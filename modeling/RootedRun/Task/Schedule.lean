import RootedRun.Job.Lookup
import RootedRun.Task.Answer

namespace RootedRun.Task

abbrev Load := String → List String → List (String × String) → Task

def stepTime : Nat := 5 -- microseconds

def turnSteps : Nat := 400

def Process.isFree (p : Process) : Bool := p.ended.isNone && ! p.halted

namespace World

def spawn (w : World) (p : Process) (task : Task) : World :=
  let child := { p with
    pid := w.nextPid
    parent := p.pid
    task
    pending := []
    held := []
    spent := 0 }
  { w with nextPid := w.nextPid + 1, others := w.others ++ [child] }

def become (p : Process) (origin : Origin) (task : Task) : Process :=
  -- of what is done about signals only that they are ignored outlives the program before
  { p with origin, task, slots := p.slots.filter (! ·.isPrivate), caught := [], pending := [] }

def unloaded (words : List String) : Task :=
  let text := words.headD "" ++ ": error while loading shared libraries: libc.so.6: "
    ++ "cannot open shared object file: Error 24\n"
  .ask (.write 2 (Text.Octets.toBytes text)) fun _ => .exit (.code 127)

def step? (load : Load) (w : World) (p : Process) : Option (Process × World) :=
  if ! p.isFree then none
  else match p.task with
  | .exit e => some ({ p with ended := some e }, w)
  | .stall => none
  | .ask (.write fd bytes) next =>
    (w.write p fd bytes).map fun (a, p, w) =>
      let task := match a with
        | .inl rest => Task.ask (.write fd rest) next
        | .inr a => next a
      ({ p with task }, w)
  | .ask r next => (w.answer p r).map fun (a, p, w) => ({ p with task := next a }, w)
  | .fork child next => some ({ p with task := next w.nextPid }, w.spawn p child)
  | .exec path program words env next =>
    let called := Text.Octets.decode program
    match Lookup.find (w.fileSystem p).program (path.map Text.Octets.decode) called with
    | .error e => some ({ p with task := next e }, w)
    | .ok own =>
      if ! p.limits.carries (words ++ settings env) then
        some ({ p with task := next .argumentsTooLong }, w)
      else
      let q := become p (.ofCall own called words env) (load own words env)
      some (if (q.available? 0).isSome then q else { q with task := unloaded words }, w)

def isAwaited (w : World) (o : Opened) : Bool :=
  o.writes && (o.target = .pipe w.awaited.out || o.target = .pipe w.awaited.err)

def settle (w : World) : World :=
  let gone := w.others.filter fun p => p.ended.isSome && ! p.slots.isEmpty
  if gone.isEmpty then w
  else
    let others := w.others.map fun p =>
      let p := if gone.any (·.parent = p.pid) then p.receive Process.childEnded else p
      if p.ended.isSome then { p with slots := [] } else p
    let end? := (gone.find? (·.pid = w.awaited.pid)).bind (·.ended)
    let awaited := { w.awaited with
      finished := w.awaited.finished.or (end?.map (·, w.clock))
      silent := if gone.any (w.hasOpen · w.isAwaited) then w.clock else w.awaited.silent }
    { w with
      awaited
      others := others.filter fun p =>
        p.ended.isNone || others.any fun q => q.pid = p.parent && q.ended.isNone }

/-- A step of the first process that can take one. That process is the first afterwards too, unless
its turn is over. -/
def turn? (load : Load) (w : World) : (before rest : List Process) → Option World
  | _, [] => none
  | before, p :: rest =>
    match step? load { w with others := rest ++ before.reverse } p with
    | none => turn? load w (p :: before) rest
    | some (p, w') =>
      let steps := if before.isEmpty then w.steps + 1 else 1
      let p := p.work stepTime
      some { w' with
        clock := w'.clock + stepTime
        steps
        others := if steps % turnSteps = 0 then w'.others ++ [p] else p :: w'.others }

def soonest? (w : World) : Option Nat :=
  (w.others.filterMap fun p => match p.task with
    | .ask (.sleepUntil t) _ => if p.isFree then some t else none
    | _ => none).min?

def isHeard (w : World) : Bool := w.others.any (w.hasOpen · w.isAwaited)

def isOver (w : World) (toSilence : Bool) : Bool :=
  w.awaited.finished.isSome && ! (toSilence && w.isHeard)

def run (load : Load) (isEnough : World → Bool) (limit : Option Nat) : (fuel : Nat) → World → World
  | 0, w => w
  | fuel + 1, w =>
    if limit.any (· ≤ w.clock) || isEnough w then w
    else match w.turn? load [] w.others with
    | some w => run load isEnough limit fuel w.settle
    | none =>
      match (w.soonest?.toList ++ limit.toList).min? with
      | none => w
      | some t => run load isEnough limit fuel { w with clock := max t w.clock }

def exit? (w : World) (toSilence : Bool) (limit : Option Nat) : Option Exit := do
  let (e, t) ← w.awaited.finished
  let t := if toSilence then max t w.awaited.silent else t
  if (toSilence && w.isHeard) || limit.any (· ≤ t) then none else return e

def launch (w : World) (parent : Nat) (cwd : List String) (origin : Origin) (task : Task) :
    World :=
  let out := w.pipes.size
  let fd := w.opened.size
  let leading : Pipe := { Pipe.empty with outside := true }
  let process : Process := {
    pid := w.nextPid
    parent, origin, task, cwd
    slots := (List.range 3).map fun n => ⟨n, fd + n, false⟩
    mask := 18
    ignored := []
    caught := []
    pending := []
    blocked := []
    held := []
    limits := .usual
    spent := 0
    halted := false
    ended := none }
  { w with
    opened := w.opened ++ #[openedBy .read .null, openedBy .replace (.pipe out),
      openedBy .replace (.pipe (out + 1))]
    pipes := w.pipes ++ #[leading, leading]
    sent := []
    steps := 0
    awaited := ⟨w.nextPid, out, out + 1, none, w.clock⟩
    others := process :: w.others
    nextPid := w.nextPid + 1 }

def stop (w : World) : World :=
  settle { w with others := w.others.map fun p =>
    if p.pid = w.awaited.pid then p.receive 9 else p }

end World

end RootedRun.Task
