import RootedRun.Aliases
import RootedRun.Error
import RootedRun.SearchPath
import RootedRun.Toml.Document

/-!
The settings of a host as they are written down, and as the table of a document. Nothing is checked
before a host is set up from them, and a setting that is left out differs from one that is blank.
-/

namespace RootedRun

structure Settings where
  aliases : Aliases
  root : Option String
  searchPath : Option (List String)
  deriving DecidableEq

namespace Settings

def empty : Settings := ⟨.empty, none, none⟩

instance : Inhabited Settings := ⟨empty⟩

def rootDir (s : Settings) : String := s.root.getD ""

def effectiveSearchPath (s : Settings) : Except SetupError SearchPath :=
  match s.searchPath with
  | none => .ok .standard
  | some dirs => SearchPath.ofList dirs

open Toml (Table Value)

/-- The name under which a moment counts as a table with one entry, its text. -/
def momentName : String := "$__toml_private_datetime"

def texts? (vs : List Value) : Option (List String) := vs.mapM Value.text?

def named? (t : Table) : Option (List (String × String)) :=
  t.mapM fun e => e.2.text?.map (e.1, ·)

def aliases? : Option Value → Option Aliases
  | none => some .empty
  | some (.table t) => (named? t).map .ofList
  | some (.moment m) => some (.ofList [(momentName, m.text)])
  | some _ => none

def root? : Option Value → Option (Option String)
  | none => some none
  | some v => v.text?.map some

def searchPath? : Option Value → Option (Option (List String))
  | none => some none
  | some (.list vs) => (texts? vs).map some
  | some _ => none

def ofTable? (t : Table) : Option Settings := do
  return ⟨← aliases? (t.get? "command_map"), ← root? (t.get? "chroot_dir"),
    ← searchPath? (t.get? "search_path")⟩

def textTable (es : List (String × String)) : Table := es.map fun e => (e.1, .text e.2)

@[simp] theorem named?_textTable (es : List (String × String)) : named? (textTable es) = some es := by
  unfold named? textTable
  induction es with
  | nil => rfl
  | cons e es ih =>
    rw [List.map_cons, List.mapM_cons, ih]
    rfl

def toTable (s : Settings) : Table :=
  ("command_map", .table (textTable s.aliases.entries))
    :: (s.root.map fun r => ("chroot_dir", Value.text r)).toList
    ++ (s.searchPath.map fun ds => ("search_path", Value.list (ds.map .text))).toList

def parse? (text : String) : Option Settings := (Toml.parse? text).bind ofTable?

def ofText (origin text : String) : Except SetupError Settings :=
  match parse? text with
  | some s => .ok s
  | none => .error (.malformed origin)

def inlineOrigin : String := "<inline>"

def ofInline (text : String) : Except SetupError Settings := ofText inlineOrigin text

def decode (bytes : ByteArray) : Except IoError String :=
  match String.fromUTF8? bytes with
  | some s => .ok s
  | none => .error .notUtf8

/-- Settings from a file: it has to be readable, then a text, then well formed. -/
def load (read : String → Except IoError ByteArray) (path : String) :
    Except SetupError Settings :=
  match (read path).bind decode with
  | .error e => .error (.unreadable path e)
  | .ok text => ofText path text

end Settings

end RootedRun
