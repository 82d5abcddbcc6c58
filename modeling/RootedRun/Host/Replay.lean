import RootedRun.Host.Basic

namespace RootedRun

def Event.replay (p : SearchPath) (i : Invocation) : Event → Invocation
  | .configured .. | .unresolved _ => i
  | .renamed _ target => { i with program := target }
  | .pinned name helper => ⟨helper, "-i" :: ("PATH=" ++ p.joined) :: name :: i.args⟩
  | .found _ path => { i with program := path }
  | .confined root program => ⟨chrootProgram, root :: program :: i.args⟩

structure Event.Line where
  level : Event.Level
  message : String
  fields : List (String × Event.Field)
  deriving DecidableEq

def Event.line (e : Event) : Event.Line := ⟨e.level, e.message, e.fields⟩

namespace Event.Line

def text? (l : Line) (name : String) : Option String :=
  match l.fields.lookup name with
  | some (.text s) => some s
  | _ => none

/-- The same from the line alone. Its message tells what happened, and only its fields tell to what. -/
def replay (p : SearchPath) (i : Invocation) (l : Line) : Option Invocation :=
  match l.message with
  | "command remapped" => return { i with program := ← l.text? "target" }
  | "pinning PATH through env helper" =>
    return ⟨← l.text? "helper", "-i" :: ("PATH=" ++ p.joined) :: (← l.text? "name") :: i.args⟩
  | "env helper missing, found command on search path" =>
    return { i with program := ← l.text? "path" }
  | "command not found on search path, passing through unqualified" => some i
  | "wrapping command in chroot" =>
    return ⟨chrootProgram, (← l.text? "root") :: (← l.text? "program") :: i.args⟩
  | "host exec wrapper configured" => some i
  | _ => none

theorem replay_line (p : SearchPath) (i : Invocation) (e : Event) :
    e.line.replay p i = some (e.replay p i) := by
  cases e <;> rfl

end Event.Line

namespace Host

def replay (p : SearchPath) (events : List Event) (i : Invocation) : Invocation :=
  events.foldl (Event.replay p) i

@[simp] theorem replay_append (p : SearchPath) (es fs : List Event) (i : Invocation) :
    replay p (es ++ fs) i = replay p fs (replay p es i) := by
  simp [replay]

theorem foldlM_replay_line (p : SearchPath) (es : List Event) (i : Invocation) :
    (es.map Event.line).foldlM (Event.Line.replay p) i = some (replay p es i) := by
  induction es generalizing i with
  | nil => rfl
  | cons e es ih =>
    rw [List.map_cons, List.foldlM_cons, Event.Line.replay_line]
    exact ih _

theorem replay_rename (h : Host) (p : SearchPath) (i : Invocation) :
    replay p (h.rename i).events i = (h.rename i).value := by
  unfold rename
  split <;> rfl

theorem replay_settle (h : Host) (i : Invocation) (placement : Placement) :
    replay h.searchPath (placement.events i.program) i = h.settle i placement := by
  cases placement <;> rfl

theorem replay_confine (h : Host) (p : SearchPath) (i : Invocation) :
    replay p (h.confine i).events i = (h.confine i).value := by
  unfold confine
  split <;> rfl

end Host

end RootedRun
