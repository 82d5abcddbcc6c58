import RootedRun.Shell.Builtin.Basic
import RootedRun.Task.Limits

namespace RootedRun.Shell.Builtin

structure Limited where
  letter : Char
  name : String
  resource : Task.Resource
  unit : Nat

def limitedFiles : Limited := ⟨'f', "file(blocks)", .fileSize, 512⟩

def limited : List Limited := [
  ⟨'t', "time(seconds)", .time, 1⟩, limitedFiles, ⟨'d', "data(kbytes)", .data, 1024⟩,
  ⟨'s', "stack(kbytes)", .stack, 1024⟩, ⟨'c', "coredump(blocks)", .core, 512⟩,
  ⟨'m', "memory(kbytes)", .memory, 1024⟩, ⟨'l', "locked memory(kbytes)", .lockedMemory, 1024⟩,
  ⟨'p', "process", .processes, 1⟩, ⟨'n', "nofiles", .descriptors, 1⟩,
  ⟨'v', "vmemory(kbytes)", .space, 1024⟩, ⟨'w', "locks", .locks, 1⟩,
  ⟨'r', "rtprio", .priority, 1⟩]

def amounts : Nat := 18446744073709551616

def tellAmount (unit : Nat) : Option Nat → String
  | none => "unlimited\n"
  | some n => toString (Int.bmod (n / unit) amounts) ++ "\n"

def amount (unit : Nat) (word : String) : Sh (Option Nat) := do
  if word = "unlimited" then return none
  if ¬ word.toList.all Char.isDigit then Sh.fail "bad number"
  let n := Tool.Numeral.value 10 word.toList * unit % amounts
  return if n + 1 = amounts then none else some n

def tellLimit (kind : Option Char) (l : Limited) : Sh String := do
  match ← Sh.ask (.limit l.resource none) with
  | .ok now => return tellAmount l.unit (if kind = some 'H' then now.hard else now.soft)
  | .error _ => return ""

def setLimit (kind : Option Char) (l : Limited) (n : Option Nat) : Sh Unit := do
  let now := ((← Sh.ask (.limit l.resource none)).toOption).getD ⟨none, none⟩
  let soft := if kind = some 'H' then now.soft else n
  let hard := if kind = some 'S' then now.hard else n
  if let .error e ← Sh.ask (.limit l.resource (some ⟨soft, hard⟩)) then
    Sh.fail ("error setting limit (" ++ e.text ++ ")")

def ulimit : Builtin := fun _ _ args => do
  let (given, words) ← switches (String.ofList ("HSa".toList ++ limited.map (·.letter))) "" args
  let letters := given.map (·.1)
  let kind := (letters.filter "HS".toList.contains).getLast?
  let meant := (letters.filter (! "HSa".toList.contains ·)).getLast?
  let l := (limited.find? (meant = some ·.letter)).getD limitedFiles
  let all := letters.contains 'a'
  match words with
  | [] =>
    if all then
      Sh.say (String.join (← limited.mapM fun l => do
        let space := String.ofList (List.replicate (20 - l.name.length) ' ')
        return l.name ++ space ++ " " ++ (← tellLimit kind l)))
    else Sh.say (← tellLimit kind l)
  | w :: ws =>
    if all ∨ ¬ ws.isEmpty then Sh.fail "too many arguments"
    setLimit kind l (← amount l.unit w)
    return 0

end RootedRun.Shell.Builtin
