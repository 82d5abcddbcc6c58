import RootedRun.Entries
import RootedRun.Host.Executor
import RootedRun.Job.Lookup

namespace RootedRun

structure Request where
  invocation : Invocation
  dir : Option String
  vars : List (String × String)
  token : Option Token
  deriving DecidableEq

inductive Request.Change
  | dir (path : String)
  | var (name value : String)
  deriving DecidableEq

structure Launch where
  program : String
  args : List String
  dir : Option String
  env : Entries
  deriving DecidableEq

/-- What is started: a name without a slash is looked up on the `PATH` of the environment that the
command itself gets. -/
def Launch.executable (l : Launch) (check : String → Except OsError α) : Except OsError α :=
  Lookup.find check (l.env.get? "PATH") l.program

namespace Request

def ofCall (c : Call) : Request := ⟨c.invocation, none, [], c.token⟩

def apply (r : Request) : Change → Request
  | .dir path => { r with dir := some path }
  | .var name value => { r with vars := r.vars ++ [(name, value)] }

/-- Added variables go over inherited ones, later ones over earlier ones. -/
def environment (r : Request) (inherited : Entries) : Entries :=
  r.vars.foldl (fun env v => env.put v.1 v.2) inherited

def launch (r : Request) (inherited : Entries) : Launch :=
  ⟨r.invocation.program, r.invocation.args, r.dir, r.environment inherited⟩

@[simp] theorem apply_invocation (r : Request) (c : Change) :
    (r.apply c).invocation = r.invocation := by
  cases c <;> rfl

@[simp] theorem apply_token (r : Request) (c : Change) : (r.apply c).token = r.token := by
  cases c <;> rfl

end Request

/-- A request is all that is made of a command; nothing is started by it. -/
def Executor.processes : Executor Unit Request where
  command i _ := .done (.quiet ((), .ofCall ⟨i, none⟩))
  commandWith t i _ := .done (.quiet ((), .ofCall ⟨i, some t⟩))

end RootedRun
