import RootedRun.Task.Transfer

namespace RootedRun.Task

def device? : List String → Option (Except Fault Target)
  | ["dev", "null"] => some (.ok .null)
  | ["dev", "zero"] | ["dev", "random"] | ["dev", "urandom"] => some (.ok .zero)
  | ["dev", "full"] => some (.ok .full)
  | ["dev", "tty"] => some (.error .noDevice)
  | _ => none

def kindOf (follow : Bool) (place : List String) : Node → Kind
  | .directory .. => .directory
  | .link _ => .link
  -- what leads to a pipe is a link until it is followed
  | .pipe _ => if follow then .pipe else .link
  | .file .. => if (device? place).isSome then .device else .file

def sizeOf : Node → Nat
  | .file c _ => c.size
  | .link target => target.utf8ByteSize
  | .directory .. => 4096
  | .pipe _ => 0

def pipePlace (id : Nat) : List String := ["pipe", toString id]

namespace World

def hold (w : World) (p : Process) (o : Opened) : Except Fault (Nat × Process × World) :=
  match p.available? 0 with
  | none => .error .tooManyOpen
  | some fd => .ok (fd, p.assign fd w.opened.size false, { w with opened := w.opened.push o })

def create (w : World) (p : Process) (path : String) : Except Fault (List String × World) :=
  let fs := w.fileSystem p
  match fs.freePlace? (fs.newPath FileSystem.maxLinks path) with
  | none => .error (.os .notFound)
  | some (dir, name) =>
    if dir.head? = some processes then .error (.os .notFound)
    else .ok (dir ++ [name],
      { w with root := w.root.modify (Node.addEntry w.now name (.file .empty w.now)) dir })

def reach (w : World) (p : Process) (path : String) (mode : Mode) :
    Except Fault (Opened × World) := do
  let fs := w.fileSystem p
  -- a slash at the end asks for a directory, which nothing can be written to
  if mode ≠ .read ∧ path.endsWith "/" then
    let s ← (fs.locate true (Path.parent path)).mapError .os
    throw (.os (if s.node.isDirectory then .isDirectory else .notDirectory))
  match fs.locate (mode ≠ .fresh) path with
  | .error .notFound =>
    if mode = .read then throw (.os .notFound)
    let (place, w) ← w.create p path
    return (openedBy mode (.file place), w)
  | .error e => throw (.os e)
  | .ok s =>
    if mode = .fresh then throw .exists
    match s.node, device? s.names with
    | .directory .., _ =>
      if mode = .read then return (openedBy mode (.directory s.names), w)
      else throw (.os .isDirectory)
    | .pipe id, _ => return (openedBy mode (.pipe id), w)
    | _, some target => return (openedBy mode (← target), w)
    | _, none => return (openedBy mode (.file s.names),
        if mode = .replace then w.setContent s.names .empty else w)

def infoOfOpened (w : World) (p : Process) (o : Opened) : Info :=
  let time (place : List String) : Nat := ((nodeAt? w.root place).map (·.time)).getD 0
  match o.target with
  | .file place => ⟨.file, (w.content p place).size, place, false, time place, o.offset⟩
  | .directory place => ⟨.directory, 4096, place, true, time place, o.offset⟩
  | .pipe id => ⟨.pipe, 0, pipePlace id, false, w.now, 0⟩
  | .null | .zero | .full => ⟨.device, 0, [], false, 0, 0⟩

def look (w : World) (p : Process) (path : String) (follow : Bool) : Except Fault Info := do
  let fs := w.fileSystem p
  let s ← (fs.locate follow path).mapError .os
  let place := match s.node with
    | .pipe id => pipePlace id
    | _ => s.names
  return ⟨kindOf follow s.names s.node, sizeOf s.node, place,
    s.node.isDirectory || (fs.program path).isOk, s.node.time, 0⟩

def entries (w : World) (p : Process) (path : String) : List String :=
  let fs := w.fileSystem p
  if (p.available? 0).isNone then []
  else match fs.locate true path with
  | .ok ⟨.directory .., _⟩ => "." :: ".." :: (fs.list path).map Text.Octets.ofName
  | _ => []

def endedChild? (w : World) (p : Process) : Option (Nat × Exit × List Process) := do
  let q ← w.others.find? fun q => q.parent = p.pid && q.ended.isSome
  return (q.pid, ← q.ended, w.others.filter (·.pid ≠ q.pid))

/-- Who waits for a signal does not hear of children where the signal for them is blocked. -/
def wait (w : World) (p : Process) (patience : Patience) : Option (Waited × Process × World) :=
  let isDeaf := patience = .untilSignal && p.blocked.contains Process.childEnded
  match if isDeaf then none else w.endedChild? p with
  | some (pid, e, others) => some (.ended pid e, p, { w with others })
  | none =>
    if ! w.others.any (·.parent = p.pid) then some (.noChild, p, w)
    else match patience, p.pending.getLast? with
    | .none, _ => some (.notYet, p, w)
    | .untilSignal, some signal => some (.interrupted signal, p, w)
    | _, _ => none

def lingering : Nat := 100 -- microseconds

def isThere (w : World) (p : Process) (pid : Nat) : Bool :=
  let lingers := pid = w.awaited.pid && w.awaited.finished.any (w.clock < ·.2 + lingering)
  FileSystem.outsiders.contains pid || (p :: w.others).any (·.pid = pid) || lingers

def signal (w : World) (p : Process) (pid n : Nat) : Bool × Process × World :=
  let send (q : Process) : Process := if q.pid = pid then q.receive n else q
  (w.isThere p pid, send p, { w with others := w.others.map send })

def readRate : Nat := 64

def spend (w : World) (a : Except Fault ByteArray) : World :=
  match a with
  | .ok bytes => { w with clock := w.clock + bytes.size / readRate }
  | .error _ => w

def openPath (w : World) (p : Process) (path : String) (mode : Mode) :
    Except Fault (Nat × Process × World) := do
  -- a descriptor is needed before the path is looked for
  if path ≠ "" ∧ (p.available? 0).isNone then throw .tooManyOpen
  let (o, w) ← w.reach p (Text.Octets.decode path) mode
  w.hold p o

def openPipe (w : World) (p : Process) : Except Fault ((Nat × Nat) × Process × World) := do
  let id := w.pipes.size
  let (r, q, w) ← { w with pipes := w.pipes.push .empty }.hold p (openedBy .read (.pipe id))
  let (s, q, w) ← w.hold q (openedBy .replace (.pipe id))
  return ((r, s), q, w)

def copy (p : Process) (fd least : Nat) : Except Fault (Nat × Process) :=
  match p.slot? fd, p.available? least with
  | none, _ => .error .badDescriptor
  | some _, none => .error (if p.admits least then .tooManyOpen else .invalid)
  | some s, some copy => .ok (copy, p.assign copy s.opened (least ≥ leastPrivate))

def granted (w : World) (p : Process) (a : Except ε (α × Process × World)) :
    Except ε α × Process × World :=
  match a with
  | .error e => (.error e, p, w)
  | .ok (a, p, w) => (.ok a, p, w)

def answer (w : World) (p : Process) : (r : Request) → Option (r.Answer × Process × World)
  | .pause => some (p.pending, { p with pending := [] }, w)
  | .read fd most untilSignal =>
    match w.read p fd most with
    | some (a, w) => some (a, p, w.spend a)
    | none => if untilSignal ∧ ¬ p.pending.isEmpty then some (.error .interrupted, p, w) else none
  | .write fd bytes =>
    match w.write p fd bytes with
    | some (.inr a, p, w) => some (a, p, w)
    | _ => none
  | .open path mode => some (w.granted p (w.openPath p path mode))
  | .duplicate fd least => some (w.granted p ((copy p fd least).map fun (n, p) => (n, p, w)))
  | .redirect fd onto =>
    some (w.granted p (match p.slot? fd with
      | none => .error .badDescriptor
      | some s =>
        if p.admits onto then .ok ((), p.assign onto s.opened false, w)
        else .error .badDescriptor))
  | .close fd => some ((), p.close fd, w)
  | .rewind fd =>
    some ((), p, match w.openedAt? p fd with
      | none => w
      | some (i, _) => w.withOffset i 0)
  | .pipe => some (w.granted p (w.openPipe p))
  | .now => some (w.clock, p, w)
  | .sleepUntil time => if time ≤ w.clock then some ((), p, w) else none
  | .wait patience => w.wait p patience
  | .kill pid number => some (w.signal p pid number)
  | .react number new => some (p.reaction number, new.elim p (p.react number), w)
  | .block new => some (p.blocked, new.elim p p.block, w)
  | .limit r new =>
    some (w.granted p ((new.elim (.ok p.limits) (p.limits.change r)).map fun limits =>
      (p.limits.of r, { p with limits }, w)))
  | .look path follow => some (w.look p (Text.Octets.decode path) follow, p, w)
  | .lookAt fd =>
    some (match w.openedAt? p fd with
      | none => .error .badDescriptor
      | some (_, o) => .ok (w.infoOfOpened p o), p, w)
  | .list path => some (w.entries p (Text.Octets.decode path), p, w)
  | .enter path =>
    match (w.fileSystem p).enter (Text.Octets.decode path) with
    | .ok fs => some (.ok (), { p with cwd := fs.cwd }, w)
    | .error e => some (.error (.os e), p, w)
  | .place => some (p.cwd.map Text.Octets.ofName, p, w)
  | .mask new => some (p.mask, { p with mask := new.getD p.mask }, w)
  | .family => some ((p.pid, p.parent), p, w)

end World

end RootedRun.Task
