import RootedRun.Tool.Basic
import RootedRun.Tool.Printf
import RootedRun.Tool.Test

namespace RootedRun.Tool

def succeed : Program := fun _ => return 0

def fail : Program := fun _ => return 1

def Echo.switches (newline escapes : Bool) : List String → Bool × Bool × List String
  | [] => (newline, escapes, [])
  | w :: ws =>
    match w.toList with
    | '-' :: c :: cs =>
      if (c :: cs).all "neE".toList.contains then
        let escapes := (c :: cs).foldl (fun e c => if c = 'n' then e else c == 'e') escapes
        switches (newline && ! (c :: cs).contains 'n') escapes ws
      else (newline, escapes, w :: ws)
    | _ => (newline, escapes, w :: ws)

def echo : Program := fun c =>
  let (newline, escapes, words) := Echo.switches true false c.args
  let ending := if newline then "\n" else ""
  if escapes then
    let (t, stop) := Escape.unescape (String.intercalate " " words).toList
    c.say (if stop then t else t ++ ending) 0
  else c.say (String.intercalate " " words ++ ending) 0

def printf : Program := fun c =>
  match (if c.args.head? = some "--" then c.args.tail else c.args) with
  | [] => c.refuse "missing operand" 1
  | format :: words => do
    let o := Printf.run format words
    (o.complaints ++ o.fault.toList).forM c.complain
    c.say o.text (if o.fault.isSome then 1 else o.status)

def identity : Program := fun c =>
  match c.args with
  | ["-u"] | ["-g"] | ["-G"] => c.say "0\n" 0
  | ["-un"] | ["-gn"] => c.say "root\n" 0
  | _ => c.say "uid=0(root) gid=0(root) groups=0(root)\n" 0

def pwd : Program := fun c => do
  let names ← Act.ask .place
  c.say ("/" ++ String.intercalate "/" names ++ "\n") 0

def Test.unclosed : String := "missing ]"

def test : Program := fun c =>
  match Test.words? c.name c.args with
  | none => do
    c.complain Test.unclosed
    return 2
  | some words => do
    let (status, message) ← Test.status words
    message.forM c.complain
    return status

end RootedRun.Tool
