import RootedRun.Aliases
import RootedRun.Invocation
import RootedRun.Log
import RootedRun.Probe
import RootedRun.SearchPath

/-!
A host prepares commands for a target root in three steps: the name is replaced by what it stands
for, a name without a slash is tied to the search path of the host, and the result is confined to
the root. The second step looks at files, from outside the root, and its finding is a value of its
own: `Host.place` finds, `Host.settle` applies.
-/

namespace RootedRun

def envHelper : String := "/usr/bin/env"

def chrootProgram : String := "/usr/sbin/chroot"

theorem qualified_envHelper : Qualified envHelper := by decide

theorem qualified_chrootProgram : Qualified chrootProgram := by decide

structure Host where
  aliases : Aliases
  root : Option String
  searchPath : SearchPath
  deriving DecidableEq

/-- How the meaning of a name is fixed: it is a path already, the helper looks it up on the given
search path, it has been found there, or it is left as it is. -/
inductive Placement
  | explicit
  | pinned
  | found (path : String)
  | unresolved
  deriving DecidableEq

def Placement.events (name : String) : Placement → List Event
  | .explicit => []
  | .pinned => [.pinned name envHelper]
  | .found path => [.found name path]
  | .unresolved => [.unresolved name]

namespace Host

/-- Where a path of the target lies for whoever looks from outside. -/
def inRoot (h : Host) (path : String) : String :=
  match h.root with
  | none => path
  | some root => root ++ path

def rename (h : Host) (i : Invocation) : Logged Invocation :=
  match h.aliases.resolve i.program with
  | none => .quiet i
  | some target => ⟨[.renamed i.program target], { i with program := target }⟩

def search (h : Host) : List String → Probe Placement
  | [] => .done .unresolved
  | c :: cs => .ask (.reachable (h.inRoot c)) fun there =>
      if there then .done (.found c) else h.search cs

def place (h : Host) (name : String) : Probe Placement :=
  if Qualified name then .done .explicit
  else .ask (.missing (h.inRoot envHelper)) fun missing =>
    if missing then h.search (h.searchPath.candidates name) else .done .pinned

def settle (h : Host) (i : Invocation) : Placement → Invocation
  | .explicit | .unresolved => i
  | .pinned => ⟨envHelper, "-i" :: ("PATH=" ++ h.searchPath.joined) :: i.program :: i.args⟩
  | .found path => { i with program := path }

def qualify (h : Host) (i : Invocation) : Probe (Logged Invocation) :=
  (h.place i.program).map fun p => ⟨p.events i.program, h.settle i p⟩

def confine (h : Host) (i : Invocation) : Logged Invocation :=
  match h.root with
  | none => .quiet i
  | some root => ⟨[.confined root i.program], ⟨chrootProgram, root :: i.program :: i.args⟩⟩

def prepare (h : Host) (i : Invocation) : Probe (Logged Invocation) :=
  (h.qualify (h.rename i).value).map fun q => (h.rename i).bind fun _ => q.bind h.confine

end Host

end RootedRun
