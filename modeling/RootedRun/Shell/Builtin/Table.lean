import RootedRun.Shell.Builtin.Control
import RootedRun.Shell.Builtin.Input
import RootedRun.Shell.Builtin.Limits
import RootedRun.Shell.Builtin.Names
import RootedRun.Shell.Builtin.Places
import RootedRun.Shell.Builtin.Processes
import RootedRun.Shell.Builtin.Variables
import RootedRun.Tool.Plain

namespace RootedRun.Shell.Builtin

def echo : Builtin := fun _ _ args => Sh.say (Tool.echoed args)

def printf : Builtin := fun _ _ args => do
  match ← noSwitches args with
  | [] => Sh.fail "usage: printf format [arg ...]"
  | format :: words =>
    let o := Tool.Printf.run format words
    o.complaints.forM Sh.complain
    match o.fault with
    | some f => Sh.thenAlways (Sh.fail f) (discard (Sh.say o.text))
    | none => return o.status ||| (← Sh.say o.text)

def test (name : String) : Builtin := fun _ _ args => do
  match Tool.Test.words? name args with
  | none => Sh.failWith 2 Tool.Test.unclosed
  | some words =>
    let (status, message) ← Sh.act (Tool.Test.status words)
    message.forM Sh.complain
    return status

def ofName? : String → Option Builtin
  | "." => some dot
  | ":" | "true" => some succeed
  | "[" => some (test "[")
  | "alias" => some aliases
  | "bg" | "fg" => some resume
  | "break" => some (jump .leave)
  | "cd" | "chdir" => some cd
  | "command" => some command
  | "continue" => some (jump .again)
  | "echo" => some echo
  | "eval" => some eval
  | "exec" => some exec
  | "exit" => some exit
  | "export" => some (mark .exported "export")
  | "false" => some fail
  | "getopts" => some getopts
  | "hash" => some hash
  | "jobs" => some jobs
  | "kill" => some kill
  | "local" => some locals
  | "printf" => some printf
  | "pwd" => some pwd
  | "read" => some read
  | "readonly" => some (mark .readonly "readonly")
  | "return" => some returning
  | "set" => some setWords
  | "shift" => some shift
  | "test" => some (test "test")
  | "times" => some times
  | "trap" => some trap
  | "type" => some type
  | "ulimit" => some ulimit
  | "umask" => some umask
  | "unalias" => some unalias
  | "unset" => some unset
  | "wait" => some wait
  | _ => none

end RootedRun.Shell.Builtin
