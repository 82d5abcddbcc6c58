import RootedRun.Entries

/-!
Command names that stand for other commands. An entry with a blank target is kept and counted but
never applied, so that a name can be given back its own meaning without taking the entry out.
-/

namespace RootedRun

structure Aliases where
  entries : Entries
  ordered : entries.Ordered
  deriving DecidableEq

namespace Aliases

def empty : Aliases := ⟨[], .nil⟩

instance : Inhabited Aliases := ⟨empty⟩

def insert (m : Aliases) (name target : String) : Aliases :=
  ⟨m.entries.put name target, m.ordered.put name target⟩

def ofList (es : List (String × String)) : Aliases :=
  es.foldl (fun m e => m.insert e.1 e.2) empty

def collect (es : List (String × String)) : Aliases := ⟨Entries.collect es, Entries.ordered_collect es⟩

def get? (m : Aliases) (name : String) : Option String := m.entries.get? name

def resolve (m : Aliases) (name : String) : Option String :=
  (m.get? name).filter (· ≠ "")

def size (m : Aliases) : Nat := m.entries.length

def isEmpty (m : Aliases) : Bool := m.entries.isEmpty

@[ext] theorem ext {m m' : Aliases} (h : m.entries = m'.entries) : m = m' := by
  cases m; cases m'; simp_all

@[simp] theorem get?_empty (name : String) : empty.get? name = none := rfl

theorem resolve_ne_blank {m : Aliases} {name target : String} (h : m.resolve name = some target) :
    target ≠ "" := by
  simpa using (Option.filter_eq_some_iff.1 h).2

end Aliases

end RootedRun
