namespace RootedRun

inductive Event
  | configured (root : String) (aliases : Nat)
  | renamed (name target : String)
  | pinned (name helper : String)
  | found (name path : String)
  | unresolved (name : String)
  | confined (root program : String)
  deriving DecidableEq

inductive Event.Level
  | info
  | debug
  deriving DecidableEq

inductive Event.Field
  | text : String → Field
  | number : Nat → Field
  deriving DecidableEq

def Event.level : Event → Level
  | .configured .. => .info
  | _ => .debug

def Event.message : Event → String
  | .configured .. => "host exec wrapper configured"
  | .renamed .. => "command remapped"
  | .pinned .. => "pinning PATH through env helper"
  | .found .. => "env helper missing, found command on search path"
  | .unresolved _ => "command not found on search path, passing through unqualified"
  | .confined .. => "wrapping command in chroot"

def Event.fields : Event → List (String × Field)
  | .configured root aliases => [("chroot_dir", .text root), ("mapped_commands", .number aliases)]
  | .renamed name target => [("name", .text name), ("target", .text target)]
  | .pinned name helper => [("name", .text name), ("helper", .text helper)]
  | .found name path => [("name", .text name), ("path", .text path)]
  | .unresolved name => [("name", .text name)]
  | .confined root program => [("root", .text root), ("program", .text program)]

/-- A value and the events on the way to it, first event first. -/
structure Logged (α : Type u) where
  events : List Event
  value : α
  deriving DecidableEq

namespace Logged

variable {α : Type u} {β : Type v} {γ : Type w}

def quiet (a : α) : Logged α := ⟨[], a⟩

def map (f : α → β) (a : Logged α) : Logged β := ⟨a.events, f a.value⟩

def bind (a : Logged α) (f : α → Logged β) : Logged β :=
  ⟨a.events ++ (f a.value).events, (f a.value).value⟩

@[simp] theorem bind_assoc (a : Logged α) (f : α → Logged β) (g : β → Logged γ) :
    (a.bind f).bind g = a.bind fun x => (f x).bind g := by
  simp [bind]

end Logged

end RootedRun
