import RootedRun.Shell.Expand

namespace RootedRun.Shell

abbrev Builtin := Runner → (tested : Bool) → List String → Sh Nat

namespace Builtin

def specials : List String :=
  [".", ":", "break", "continue", "eval", "exec", "exit", "export", "local", "readonly", "return",
    "set", "shift", "times", "trap", "unset"]

def others : List String :=
  ["[", "alias", "bg", "cd", "chdir", "command", "echo", "false", "fg", "getopts", "hash", "jobs",
    "kill", "printf", "pwd", "read", "test", "true", "type", "ulimit", "umask", "unalias", "wait"]

def isSpecial (name : String) : Bool := specials.contains name

def isMovable (name : String) : Bool := ["[", "chdir", "echo", "printf", "test"].contains name

def isThere (name : String) : Bool := isSpecial name || others.contains name

def takesSettings (name : String) : Bool :=
  ["alias", "export", "local", "readonly"].contains name

abbrev Switch := Char × Option String

def letters (plain valued : String) : List Char → Sh (List Switch × Option Char)
  | [] => return ([], none)
  | c :: cs => do
    if plain.contains c then
      let (switches, open?) ← letters plain valued cs
      return ((c, none) :: switches, open?)
    if ¬ valued.contains c then Sh.fail ("Illegal option -" ++ String.singleton c)
    match cs with
    | [] => return ([], some c)
    | cs => return ([(c, some (String.ofList cs))], none)

def switches (plain valued : String) : List String → Sh (List Switch × List String)
  | [] => return ([], [])
  | w :: ws => do
    match w.toList with
    | ['-', '-'] => return ([], ws)
    | '-' :: c :: cs =>
      let (found, open?) ← letters plain valued (c :: cs)
      match open?, ws with
      | none, ws =>
        let (more, rest) ← switches plain valued ws
        return (found ++ more, rest)
      | some l, v :: ws =>
        let (more, rest) ← switches plain valued ws
        return (found ++ (l, some v) :: more, rest)
      | some l, [] => Sh.fail ("No arg for -" ++ String.singleton l ++ " option")
    | _ => return ([], w :: ws)

def noSwitches (args : List String) : Sh (List String) := return (← switches "" "" args).2

def has (switches : List Switch) (c : Char) : Bool := switches.any (·.1 = c)

def setting (arg : String) : String × Option String :=
  match arg.toList.dropWhile (· ≠ '=') with
  | [] => (arg, none)
  | _ :: value => (String.ofList (arg.toList.takeWhile (· ≠ '=')), some (String.ofList value))

end Builtin

end RootedRun.Shell
