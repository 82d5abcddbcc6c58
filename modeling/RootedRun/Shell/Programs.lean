import RootedRun.Job.Lookup
import RootedRun.Shell.Builtin.Basic

namespace RootedRun.Shell.Programs

def faultText : Task.Fault → String
  | .os .notFound | .os .notDirectory => "not found"
  | f => f.text

def isMissing : Task.Fault → Bool
  | .os .notFound | .os .notDirectory => true
  | _ => false

def statusFor : Task.Fault → Nat
  | .os .notFound | .os .notDirectory | .os .linkLoop | .os .nameTooLong => 127
  | _ => 126

inductive Use
  | programs
  | functions
  | builtins
  deriving DecidableEq

structure Entry where
  dir : String
  use : Use

namespace Entry

def mark? (cs : List Char) : Option (Use × List Char) :=
  let marks := [("builtin", Use.builtins), ("func", .functions)]
  marks.findSome? fun (name, use) =>
    if name.toList.isPrefixOf cs then some (use, cs.drop name.length) else none

def ofText (entry : List Char) : Entry :=
  let plain : Entry := ⟨String.ofList entry, .programs⟩
  let front? := match entry with
    | '%' :: cs => mark? cs
    | _ => none
  match front?, entry.dropWhile (· ≠ '%') with
  | some (use, '%' :: dir), _ | some (use, dir), _ => ⟨String.ofList dir, use⟩
  | none, '%' :: cs =>
    match mark? cs with
    | some (use, _) => ⟨String.ofList (entry.takeWhile (· ≠ '%')), use⟩
    | none => plain
  | none, _ => plain

def location (e : Entry) (name : String) : String := Lookup.location e.dir name

end Entry

def entries (path : String) : List Entry := (path.toList.splitOn ':').map Entry.ofText

def pathsFrom (es : List Entry) (index : Nat) (name : String) : List String :=
  ((es.drop index).filter (·.use = .programs)).map (·.location name)

def pathAt (path : String) (index : Nat) (name : String) : String :=
  (((entries path)[index]?).map (·.location name)).getD name

def path : Sh String := return ((← get).vars.get? "PATH").getD ""

def isLate (path : String) : Bool :=
  let isMarked (entry : List Char) : Bool := "%builtin".toList.isPrefixOf entry
  match path.toList.splitOn ':' with
  | [] => false
  | e :: es => ! isMarked e && es.any isMarked

def isOwn (name : String) : Sh Bool := do
  let path ← path
  return Builtin.isThere name && ! (Builtin.isMovable name && isLate path)

inductive Found
  | builtin
  | definition (path : String)
  | program (index : Nat) (paths : List String)

def seek (name : String) (direct : Bool) (es : List Entry) (last : Task.Fault) :
    (index : Nat) → List Entry → Sh (Except Task.Fault Found)
  | _, [] => return .error last
  | n, e :: rest => do
    let path := e.location name
    if e.use = .builtins then
      if Builtin.isThere name then return .ok .builtin
      return ← seek name direct es last (n + 1) rest
    if e.use = .functions ∧ direct then return ← seek name direct es last (n + 1) rest
    match ← Sh.ask (.look path true) with
    | .error f => seek name direct es (if isMissing f then last else f) (n + 1) rest
    | .ok info =>
      if info.kind = .file ∧ e.use = .functions then return .ok (.definition path)
      else if info.kind = .file ∧ info.executable then
        return .ok (.program n (pathsFrom es n name))
      else seek name direct es (.os .permissionDenied) (n + 1) rest

def remember (name : String) (a : α) (known : List (String × α)) : List (String × α) :=
  if (known.lookup name).isSome then
    known.map fun k => if k.1 = name then (name, a) else k
  else known ++ [(name, a)]

/-- What a name stands for, on a `PATH` value if one is given. A program that has been found is
known from then on, until the script goes elsewhere. A path stands for itself. -/
def find (name : String) (direct : Bool) (path? : Option String) :
    Sh (Except Task.Fault Found) := do
  if name.contains '/' then return .ok (.program 0 [name])
  let own ← path
  let es := entries (path?.getD own)
  let st ← get
  let keeps := path?.isNone && (st.functions.lookup name).isNone
  match if keeps then st.tracks.lookup name else none with
  | some ⟨index, false⟩ => return .ok (.program index (pathsFrom es index name))
  | _ =>
    if Builtin.isThere name ∧ (path?.isSome ∨ (← isOwn name)) then return .ok .builtin
    let found ← seek name direct es (.os .notFound) 0 es
    if keeps then
      match found with
      | .ok (.program index _) =>
        modify fun st => { st with tracks := remember name ⟨index, false⟩ st.tracks }
      | _ => modify fun st => { st with tracks := st.tracks.filter (·.1 ≠ name) }
    return found

def pathsOf (name : String) : Sh (List String) := do
  let path ← path
  return if name.contains '/' then [name] else pathsFrom (entries path) 0 name

def attempt (words : List String) (env : List (String × String)) (last : Task.Fault) :
    List String → Sh Task.Fault
  | [] => return last
  | p :: ps => do
    let e ← Sh.act (Act.exec none (if p.contains '/' then p else "./" ++ p) words env)
    attempt words env (if isMissing (.os e) then last else .os e) ps

def become (paths words : List String) : Sh α := do
  let f ← attempt words (← get).vars.environment (.os .notFound) paths
  Sh.complain (words.headD "" ++ ": " ++ faultText f)
  Sh.setStatus (statusFor f)
  Sh.stop .done

end RootedRun.Shell.Programs

namespace RootedRun.Shell

namespace Builtin

def openScript (path : String) : Sh Nat := do
  match ← Sh.ask (.open path .read) with
  | .ok fd => return fd
  | .error f =>
    let why := if Programs.isMissing f then "No such file" else f.text
    Sh.fail ("cannot open " ++ path ++ ": " ++ why)

def moveAway (fd : Nat) : Sh Nat := do
  if Task.leastPrivate ≤ fd then return fd
  return (← Sh.moved fd).getD fd

def withScript (path : String) (run : (fd : Nat) → Sh α) : Sh α := do
  let fd ← moveAway (← openScript path)
  Sh.thenAlways (run fd) (Sh.ask (.close fd))

end Builtin

def Definitions.load (r : Runner) (name path : String) : Sh Unit := do
  discard (Builtin.withScript path (r.source false))
  if ((← get).functions.lookup name).isNone then
    Sh.fail (name ++ " not defined in " ++ path)

end RootedRun.Shell
