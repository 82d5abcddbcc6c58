import RootedRun.Files.Node
import RootedRun.Files.Stat

namespace RootedRun

structure FileSystem where
  root : Node
  cwd : List String
  now : Nat

inductive FileSystem.Change
  | directory (path : String)
  | file (path : String) (content : ByteArray)
  | link (path target : String)
  | remove (path : String)

namespace FileSystem

def maxLinks : Nat := 40

def locate (fs : FileSystem) (follow : Bool) (path : String) : Except OsError Spot :=
  if path = "" then .error .notFound
  else if path.utf8ByteSize > Path.maxPath then .error .nameTooLong
  else do
    let start ←
      if Path.isAbsolute path then .ok (Spot.top fs.root)
      else Spot.walk fs.root true maxLinks (Spot.top fs.root) fs.cwd
    Spot.walk fs.root follow maxLinks start (Path.steps path)

def find (fs : FileSystem) (path : String) : Except IoError Spot :=
  if '\x00' ∈ path.toList then .error .nulInPath
  else (fs.locate true path).mapError .os

def stat (fs : FileSystem) : Stat := fun path =>
  (fs.find path).map fun s => if s.node.isDirectory then .directory else .other

def read (fs : FileSystem) (path : String) : Except IoError ByteArray := do
  match (← fs.find path).node with
  | .file content _ => .ok content
  | _ => .error (.os .isDirectory)

def list (fs : FileSystem) (path : String) : List String :=
  match fs.find path with
  | .ok ⟨.directory es _, _⟩ => (es.map (·.1)).mergeSort (· ≤ ·)
  | _ => []

def enter (fs : FileSystem) (dir : String) : Except OsError FileSystem := do
  let s ← fs.locate true dir
  if s.node.isDirectory then .ok { fs with cwd := s.names } else .error .notDirectory

def add (fs : FileSystem) (dir : List String) (name : String) (n : Node) : FileSystem :=
  { fs with root := fs.root.modify (Node.addEntry fs.now name n) dir }

def freePlace? (fs : FileSystem) (path : String) : Option (List String × String) :=
  match (Path.names path).getLast?, fs.locate true (Path.parent path) with
  | some name, .ok s => some (s.names, name)
  | _, _ => none

def put (fs : FileSystem) (path : String) (n : Node) : FileSystem :=
  match fs.freePlace? path with
  | some (dir, name) => fs.add dir name n
  | none => fs

def makeDirectories (fs : FileSystem) (path : String) : FileSystem :=
  (List.range (Path.names path).length).foldl (fun fs n =>
    let dir := Path.initial path (n + 1)
    match fs.locate true dir with
    | .error .notFound => fs.put dir (.directory [] fs.now)
    | _ => fs) fs

def newPath (fs : FileSystem) : (links : Nat) → (path : String) → String
  | 0, path => path
  | links + 1, path =>
    match fs.locate false path with
    | .ok s =>
      match s.node with
      | .link target =>
        newPath fs links (if Path.isAbsolute target then target
          else "/" ++ String.intercalate "/" (s.parent.names ++ [target]))
      | _ => path
    | .error _ => path

def write (fs : FileSystem) (path : String) (content : ByteArray) : FileSystem :=
  match fs.locate true path with
  | .ok s => { fs with root := fs.root.modify (Node.setContent fs.now content) s.names }
  | .error .notFound => fs.put (fs.newPath maxLinks path) (.file content fs.now)
  | .error _ => fs

def remove (fs : FileSystem) (path : String) : FileSystem :=
  match fs.locate false path with
  | .error _ => fs
  | .ok s =>
    match s.above with
    | [] => fs
    | (name, _) :: _ =>
      { fs with root := fs.root.modify (Node.dropEntry fs.now name) s.parent.names }

def apply (fs : FileSystem) : Change → FileSystem
  | .directory path => fs.makeDirectories path
  | .file path content => (fs.makeDirectories (Path.parent path)).write path content
  | .link path target =>
    let fs := fs.makeDirectories (Path.parent path)
    match fs.locate false path with
    | .error .notFound => fs.put path (.link target)
    | _ => fs
  | .remove path => fs.remove path

def applyAll (fs : FileSystem) (cs : List Change) : FileSystem := cs.foldl apply fs

end FileSystem

end RootedRun
