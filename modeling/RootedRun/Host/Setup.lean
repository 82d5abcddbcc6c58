import RootedRun.Host.Basic
import RootedRun.Settings

/-!
Setting up a host, from its parts or from settings, which may have to be read from a text or a file.
Both ways check that the root is a directory and that the search path has only absolute entries; they
differ in which check comes first.
-/

namespace RootedRun.Host

def configured (h : Host) : Event := .configured (h.root.getD "") h.aliases.size

/-- A host with the standard search path; a blank `root` stands for none. -/
def create (stat : Stat) (aliases : Aliases) (root : String) : Except SetupError Host :=
  if root = "" then .ok ⟨aliases, none, .standard⟩
  else if stat.isDirectory root then .ok ⟨aliases, some root, .standard⟩
  else .error (.rootNotDirectory root)

def announce : Except SetupError Host → Logged (Except SetupError Host)
  | .ok h => ⟨[h.configured], .ok h⟩
  | .error e => .quiet (.error e)

def withSearchPath (h : Host) (p : SearchPath) : Host := { h with searchPath := p }

/-- The root is checked first, and the host is announced before its search path is replaced. -/
def ofParts (stat : Stat) (aliases : Aliases) (root : String) (dirs : Option (List String)) :
    Logged (Except SetupError Host) :=
  (announce (create stat aliases root)).map fun made =>
    match dirs with
    | none => made
    | some ds => do return (← made).withSearchPath (← SearchPath.ofList ds)

/-- The search path is checked first. -/
def ofSettings (stat : Stat) (s : Settings) : Logged (Except SetupError Host) :=
  match s.effectiveSearchPath with
  | .error e => .quiet (.error e)
  | .ok p => (announce (create stat s.aliases s.rootDir)).map (·.map (·.withSearchPath p))

inductive Source
  | parts (aliases : Aliases) (root : String) (dirs : Option (List String))
  | settings (s : Settings)
  | inline (text : String)
  | file (path : String)
  deriving DecidableEq

namespace Source

def given (read : String → Except IoError ByteArray) : Source → Except SetupError Settings
  | parts aliases root dirs => .ok ⟨aliases, some root, dirs⟩
  | settings s => .ok s
  | inline text => Settings.ofInline text
  | file path => Settings.load read path

def make (stat : Stat) (read : String → Except IoError ByteArray) (source : Source) :
    Logged (Except SetupError Host) :=
  match source with
  | parts aliases root dirs => ofParts stat aliases root dirs
  | _ =>
    match source.given read with
    | .error e => .quiet (.error e)
    | .ok s => ofSettings stat s

end Source

end RootedRun.Host
