import RootedRun.Toml.Moment
import RootedRun.Toml.Number

/-!
What a document says: tables of named values, made by its lines one after the other. A table is made
by its own header, by dotted names, or only as a part of a longer header; a header can still be given
to the last kind alone, and dotted names add to tables made by dotted names alone.
-/

namespace RootedRun.Toml

inductive Value
  | text : String → Value
  | number : Number → Value
  | bool : Bool → Value
  | moment : Moment → Value
  | list : List Value → Value
  | table : List (String × Value) → Value

abbrev Table := List (String × Value)

def Table.get? (name : String) (t : Table) : Option Value := (t.find? (·.1 = name)).map (·.2)

def Value.text? : Value → Option String
  | text s => some s
  | _ => none

inductive Statement
  | value (path : List String) (v : Value)
  | header (path : List String)
  | element (path : List String)

inductive Origin
  | header
  | dotted
  | parent
  deriving DecidableEq

/-- A table while it is made. The tables of a list come last one first. -/
inductive Draft
  | value : Value → Draft
  | table : Origin → List (String × Draft) → Draft
  | tables : List (List (String × Draft)) → Draft

namespace Draft

abbrev Entries := List (String × Draft)

def get? (name : String) (es : Entries) : Option Draft := (es.find? (·.1 = name)).map (·.2)

def set (name : String) (d : Draft) : Entries → Entries
  | [] => [(name, d)]
  | e :: es => if e.1 = name then (name, d) :: es else e :: set name d es

/-- Changes the table at the end of a path and makes the missing ones on the way. `dotted` says
whether the path is part of a dotted name or of a header. -/
def descend (dotted : Bool) (f : Origin → Entries → Option (Origin × Entries)) :
    List String → Origin → Entries → Option (Origin × Entries)
  | [], o, es => f o es
  | name :: rest, o, es =>
    match get? name es with
    | none => do
      let t ← descend dotted f rest (if dotted then .dotted else .parent) []
      return (o, set name (.table t.1 t.2) es)
    | some (.value _) => none
    | some (.table o' es') =>
      if dotted ∧ o' = .header then none
      else do
        let t ← descend dotted f rest o' es'
        return (o, set name (.table t.1 t.2) es)
    | some (.tables []) => none
    | some (.tables (last :: earlier)) => do
      let t ← descend dotted f rest .header last
      return (o, set name (.tables (t.2 :: earlier)) es)

def addValue (plain : Bool) (name : String) (v : Value) (o : Origin) (es : Entries) :
    Option (Origin × Entries) :=
  if decide (o = .dotted) = plain then none
  else match get? name es with
    | none => some (o, set name (.value v) es)
    | some _ => none

def addHeader (name : String) (o : Origin) (es : Entries) : Option (Origin × Entries) :=
  match get? name es with
  | none => some (o, set name (.table .header []) es)
  | some (.table .parent es') => some (o, set name (.table .header es') es)
  | some _ => none

def addElement (name : String) (o : Origin) (es : Entries) : Option (Origin × Entries) :=
  match get? name es with
  | none => some (o, set name (.tables [[]]) es)
  | some (.tables ts) => some (o, set name (.tables ([] :: ts)) es)
  | some _ => none

/-- Adds one line below the header at path `current`; the new header comes with the result. -/
def add (current : List String) (es : Entries) : Statement → Option (List String × Entries)
  | .value path v => do
    let name ← path.getLast?
    let inner := descend true (addValue path.dropLast.isEmpty name v) path.dropLast
    return (current, (← descend false inner current .header es).2)
  | .header path => do
    let name ← path.getLast?
    return (path, (← descend false (addHeader name) path.dropLast .header es).2)
  | .element path => do
    let name ← path.getLast?
    return (path, (← descend false (addElement name) path.dropLast .header es).2)

mutual

def toValue : Draft → Value
  | value v => v
  | table _ es => .table (toTable es)
  | tables ts => .list (toTables ts).reverse

def toTable : Entries → Table
  | [] => []
  | (name, d) :: es => (name, toValue d) :: toTable es

def toTables : List Entries → List Value
  | [] => []
  | t :: ts => .table (toTable t) :: toTables ts

end

end Draft

def Table.ofStatements? (lines : List Statement) : Option Table :=
  (lines.foldlM (fun (s : List String × Draft.Entries) l => Draft.add s.1 s.2 l) ([], [])).map
    fun s => Draft.toTable s.2

end RootedRun.Toml
