import RootedRun.Error

namespace RootedRun.Path

def isAbsolute (path : String) : Bool := path.toList.head? = some '/'

def names (path : String) : List String :=
  ((path.toList.splitOn '/').filter (· ≠ [])).map String.ofList

/-- The steps that lead along a path. A slash at the end asks for a directory, like a last step to
the place itself. -/
def steps (path : String) : List String :=
  names path ++ if path.toList.getLast? = some '/' then ["."] else []

def initial (path : String) (n : Nat) : String :=
  (if isAbsolute path then "/" else "./") ++ String.intercalate "/" ((names path).take n)

def parent (path : String) : String := initial path ((names path).length - 1)

def staysBelow (depth : Nat) : List String → Bool
  | [] => true
  | s :: ss =>
    if s = "" ∨ s = "." then staysBelow depth ss
    else if s = ".." then
      match depth with
      | 0 => false
      | depth + 1 => staysBelow depth ss
    else staysBelow (depth + 1) ss

def maxName : Nat := 255

def maxPath : Nat := 4095

end RootedRun.Path

namespace RootedRun

/-- `time` is when a file or the entries of a directory were last changed. A pipe is known by its
number. -/
inductive Node
  | file (content : ByteArray) (time : Nat)
  | link (target : String)
  | directory (entries : List (String × Node)) (time : Nat)
  | pipe (id : Nat)

namespace Node

def entry? (name : String) : Node → Option Node
  | directory es _ => (es.find? (·.1 = name)).map (·.2)
  | _ => none

def isDirectory : Node → Bool
  | directory .. => true
  | _ => false

def time : Node → Nat
  | file _ time | directory _ time => time
  | _ => 0

def withEntry (n : Node) (name : String) (child : Node) : Node :=
  match n with
  | directory es time => directory ((name, child) :: es.filter (·.1 ≠ name)) time
  | n => n

def addEntry (now : Nat) (name : String) (child : Node) : Node → Node
  | directory es _ => (directory es now).withEntry name child
  | n => n

def dropEntry (now : Nat) (name : String) : Node → Node
  | directory es _ => directory (es.filter (·.1 ≠ name)) now
  | n => n

def setContent (now : Nat) (content : ByteArray) : Node → Node
  | file .. => file content now
  | n => n

def modify (f : Node → Node) : List String → Node → Node
  | [], n => f n
  | name :: rest, n =>
    match n.entry? name with
    | none => n
    | some child => n.withEntry name (child.modify f rest)

end Node

structure Spot where
  node : Node
  above : List (String × Node)

namespace Spot

def top (root : Node) : Spot := ⟨root, []⟩

def parent (s : Spot) : Spot :=
  match s.above with
  | [] => s
  | (_, n) :: rest => ⟨n, rest⟩

def child (s : Spot) (name : String) (n : Node) : Spot := ⟨n, (name, s.node) :: s.above⟩

def names (s : Spot) : List String := (s.above.map (·.1)).reverse

/-- Walks along `steps`, through at most `links` links. A link at the very end is followed only if
`follow` is set. -/
def walk (root : Node) (follow : Bool) (links : Nat) (s : Spot) :
    List String → Except OsError Spot
  | [] => .ok s
  | name :: rest =>
    if ¬ s.node.isDirectory then .error .notDirectory
    else if name = "." then walk root follow links s rest
    else if name = ".." then walk root follow links s.parent rest
    else if name.utf8ByteSize > Path.maxName then .error .nameTooLong
    else match s.node.entry? name with
    | none => .error .notFound
    | some (.link target) =>
      if rest = [] ∧ ¬ follow then .ok (s.child name (.link target))
      else match links with
      | 0 => .error .linkLoop
      | links + 1 =>
        walk root follow links (if Path.isAbsolute target then top root else s)
          (Path.steps target ++ rest)
    | some n => walk root follow links (s.child name n) rest
termination_by steps => (links, steps.length)

end Spot

end RootedRun
