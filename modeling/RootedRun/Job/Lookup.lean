import RootedRun.Error
import RootedRun.Files.Node
import RootedRun.Invocation

/-!
How the operating system finds a program by its name: a name with a slash is a path, any other is
looked for in the directories of a `PATH` value, one after the other. What is at a path is asked of
`check`, which tells why it cannot be started.
-/

namespace RootedRun.Lookup

def dirs (value : String) : List String := (value.toList.splitOn ':').map String.ofList

def location (dir name : String) : String := if dir = "" then name else dir ++ "/" ++ name

def locations (value name : String) : List String := (dirs value).map (location · name)

def standardPath : String := "/bin:/usr/bin"

/-- The numbers of the faults that say that nothing can be started at a place, so that the next one is
tried: it is missing or not allowed, or the file server that would have it is gone. -/
def passedOver : List Nat := [2, 13, 19, 20, 110, 116]

/-- The first path that can be started. A refusal is remembered, and a fault that is not passed over
ends the search. -/
def first (check : String → Except OsError α) (denied : Bool) (last : OsError) :
    List String → Except OsError α
  | [] => .error (if denied then .permissionDenied else last)
  | p :: ps =>
    match check p with
    | .ok a => .ok a
    | .error e =>
      if e.code ∉ passedOver then .error e
      else if e = .permissionDenied then first check true last ps
      else first check denied e ps

/-- A directory that is too long to be a path is not looked into. The current one is looked into for
it, unless it is the last. -/
def searched : List String → List String
  | [] => []
  | d :: ds =>
    if d.utf8ByteSize ≤ Path.maxPath then d :: searched ds
    else if ds.isEmpty then [] else "" :: searched ds

def find (check : String → Except OsError α) (path : Option String) (name : String) :
    Except OsError α :=
  if Qualified name then check name
  else if name = "" then .error .notFound
  else if name.utf8ByteSize > Path.maxName then .error .nameTooLong
  else
    first check false .notFound
      ((searched (dirs (path.getD standardPath))).map (location · name))

end RootedRun.Lookup
