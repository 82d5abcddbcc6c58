import RootedRun.Task.World

namespace RootedRun.Task

def pathOf (place : List String) : String := "/" ++ String.intercalate "/" place

def Target.node : Target → Node
  | null => .link "/dev/null"
  | zero => .link "/dev/zero"
  | full => .link "/dev/full"
  | file place | directory place => .link (pathOf place)
  | pipe id => .pipe id

namespace World

def maxTitle : Nat := 15

def processNode (w : World) (p : Process) : Node :=
  let opened := p.slots.filterMap fun s =>
    (w.opened[s.opened]?).map fun o => (toString s.fd, o.target.node)
  let title := String.ofList ((Text.Octets.ofName p.origin.name).toList.take maxTitle)
  let told (texts : ByteArray) : Node := .file (if p.ended.isSome then .empty else texts) w.now
  .directory [("fd", .directory opened w.now), ("cwd", .link (pathOf p.cwd)), ("root", .link "/"),
    ("exe", .link p.origin.path), ("comm", .file (Text.Octets.toBytes (title ++ "\n")) w.now),
    ("cmdline", told p.origin.words), ("environ", told p.origin.env)] w.now

def processes : String := "proc"

def tree (w : World) (p : Process) : Node :=
  let entries := (p :: w.others).map fun q => (toString q.pid, w.processNode q)
  let fixed := match w.root.entry? processes with
    | some (.directory es _) => es.filter (·.1 ≠ "self")
    | _ => []
  w.root.withEntry processes
    (.directory (("self", .link (toString p.pid)) :: entries ++ fixed) w.now)

def fileSystem (w : World) (p : Process) : FileSystem := ⟨w.tree p, p.cwd, w.now⟩

end World

def pipeSize : Nat := 65536

def pipePart : Nat := 4096

def Pipe.share? (pipe : Pipe) (more : Nat) : Option Nat :=
  let room := pipeSize - (pipe.bytes.size - pipe.taken)
  if more ≤ room then some more
  else if more ≤ pipePart ∨ room = 0 then none else some room

namespace World

def content (w : World) (p : Process) (place : List String) : ByteArray :=
  match nodeAt? (if place.head? = some processes then w.tree p else w.root) place with
  | some (.file c _) => c
  | _ => .empty

def setContent (w : World) (place : List String) (c : ByteArray) : World :=
  { w with root := w.root.modify (Node.setContent w.now c) place }

def read (w : World) (p : Process) (fd most : Nat) :
    Option (Except Fault ByteArray × World) :=
  match w.openedAt? p fd with
  | none => some (.error .badDescriptor, w)
  | some (i, o) =>
    if ! o.reads then some (.error .badDescriptor, w)
    else match o.target with
    | .zero | .full => some (.ok ⟨(List.replicate most 0).toArray⟩, w)
    | .directory _ => some (.error (.os .isDirectory), w)
    | .file place =>
      let bytes := (w.content p place).extract o.offset (o.offset + most)
      some (.ok bytes, w.withOffset i (o.offset + bytes.size))
    | .pipe id =>
      let pipe := w.pipes[id]?.getD .empty
      if pipe.outside then none
      else if pipe.taken < pipe.bytes.size then
        let bytes := pipe.bytes.extract pipe.taken (pipe.taken + most)
        let taken := pipe.taken + bytes.size
        some (.ok bytes,
          w.withPipe id (if taken < pipe.bytes.size then { pipe with taken } else .empty))
      else if w.pipeHas p id true then none
      else some (.ok .empty, w)
    | .null => some (.ok .empty, w)

def overwrite (c : ByteArray) (offset : Nat) (bytes : ByteArray) : ByteArray :=
  if offset = c.size then c ++ bytes
  else
    let gap : ByteArray := ⟨(List.replicate (offset - c.size) 0).toArray⟩
    c.extract 0 offset ++ gap ++ bytes ++ c.extract (offset + bytes.size) c.size

/-- Writing where nobody reads, or more than a file may hold, brings a signal. What does not go
into a pipe yet is left to be written. -/
def write (w : World) (p : Process) (fd : Nat) (bytes : ByteArray) :
    Option ((ByteArray ⊕ Except Fault Unit) × Process × World) :=
  let done (a : Except Fault Unit) (p : Process) (w : World) :
      Option ((ByteArray ⊕ Except Fault Unit) × Process × World) := some (.inr a, p, w)
  match w.openedAt? p fd with
  | none => done (.error .badDescriptor) p w
  | some (i, o) =>
    if ! o.writes then done (.error .badDescriptor) p w
    else match o.target with
    | .null | .zero | .directory _ => done (.ok ()) p w
    | .full => done (if bytes.isEmpty then .ok () else .error .noSpace) p w
    | .file place =>
      let c := w.content p place
      let offset := if o.appends then c.size else o.offset
      let room := (p.limits.of .fileSize).soft.map (· - offset)
      let fits := room.all (bytes.size ≤ ·)
      let bytes := if fits then bytes else bytes.extract 0 (room.getD 0)
      let w := if bytes.isEmpty then w
        else (w.setContent place (overwrite c offset bytes)).withOffset i (offset + bytes.size)
      if fits then done (.ok ()) p w else done (.error .tooLarge) (p.receive 25) w
    | .pipe id =>
      let pipe := w.pipes[id]?.getD .empty
      if pipe.outside then done (.ok ()) p { w with sent := (id, bytes) :: w.sent }
      else if ! w.pipeHas p id false then done (.error .brokenPipe) (p.receive 13) w
      else (pipe.share? bytes.size).bind fun n =>
        let w := w.withPipe id { pipe with bytes := pipe.bytes ++ bytes.extract 0 n }
        if n = bytes.size then done (.ok ()) p w
        else some (.inl (bytes.extract n bytes.size), p, w)

end World

end RootedRun.Task
