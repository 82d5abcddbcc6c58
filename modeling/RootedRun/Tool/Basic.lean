import RootedRun.Task.Basic
import RootedRun.Text.Octets
import RootedRun.Tool.Options

namespace RootedRun.Tool

structure Call where
  name : String
  args : List String
  env : List (String × String)

abbrev Program := Call → Act Nat

def put (fd : Nat) (text : String) : Act (Except Task.Fault Unit) :=
  if text = "" then pure (.ok ()) else Act.write fd (Text.Octets.toBytes text)

def Call.complain (c : Call) (message : String) : Act Unit :=
  discard (put 2 (c.name ++ ": " ++ message ++ "\n"))

def Call.refuse (c : Call) (message : String) (status : Nat) : Act Nat := do
  c.complain message
  discard (put 2 ("Try '" ++ c.name ++ " --help' for more information.\n"))
  return status

def Call.read (c : Call) (rules : Options.Rules) :
    List Options.Switch × Except Options.Problem (List String) :=
  Options.read rules.complete (c.env.lookup "POSIXLY_CORRECT").isSome c.args

def Call.turnDown (c : Call) (p : Options.Problem) (status : Nat) : Act Nat :=
  if p = .asked then return 0 else c.refuse p.text status

def Call.say (c : Call) (text : String) (status : Nat) : Act Nat := do
  match ← put 1 text with
  | .ok () => return status
  | .error e =>
    c.complain ("write error: " ++ e.text)
    return 1

def blockSize : Nat := 65536

def get (fd : Nat) : Act (Except Task.Fault String) := do
  return (← Act.ask (.read fd blockSize false)).map Text.Octets.ofBytes

def getAll (fd : Nat) : Act (String × Option Task.Fault) :=
  Act.repeatFrom "" fun read => do
    match ← get fd with
    | .error e => return .inr (read, some e)
    | .ok "" => return .inr (read, none)
    | .ok more => return .inl (read ++ more)

end RootedRun.Tool
