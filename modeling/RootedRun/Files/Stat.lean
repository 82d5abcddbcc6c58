import RootedRun.Error

namespace RootedRun

inductive FileType
  | directory
  | other
  deriving DecidableEq

abbrev Stat := String → Except IoError FileType

namespace Stat

def isDirectory (stat : Stat) (path : String) : Bool :=
  match stat path with
  | .ok .directory => true
  | _ => false

def succeeds (stat : Stat) (path : String) : Bool :=
  match stat path with
  | .ok _ => true
  | .error _ => false

/-- Absence has to be certain: a look that fails in any other way finds nothing missing. -/
def missing (stat : Stat) (path : String) : Bool :=
  match stat path with
  | .ok _ => false
  | .error e => e.kind = .notFound

/-! The same as statements: something is there, a look fails, nothing is there for certain. -/

def Found (stat : Stat) (path : String) : Prop := ∃ t, stat path = .ok t

def Failed (stat : Stat) (path : String) : Prop := ∃ e, stat path = .error e

def Absent (stat : Stat) (path : String) : Prop := ∃ e, stat path = .error e ∧ e.kind = .notFound

variable {stat : Stat} {path : String}

theorem isDirectory_eq_true : stat.isDirectory path = true ↔ stat path = .ok .directory := by
  unfold isDirectory
  split
  · next h => simp [h]
  · next h => simpa using h

theorem succeeds_eq_true : stat.succeeds path = true ↔ stat.Found path := by
  unfold succeeds Found
  cases stat path <;> simp

theorem succeeds_eq_false : stat.succeeds path = false ↔ stat.Failed path := by
  unfold succeeds Failed
  cases stat path <;> simp

theorem missing_eq_true : stat.missing path = true ↔ stat.Absent path := by
  unfold missing Absent
  cases stat path <;> simp

end Stat

end RootedRun
