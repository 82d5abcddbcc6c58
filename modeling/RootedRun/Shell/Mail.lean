import RootedRun.Shell.State

namespace RootedRun.Shell.Mail

structure Box where
  path : String
  message : String

def usualMessage : String := "you have mail"

def maxBoxes : Nat := 10

def box (value : List Char) : Box :=
  let goesOn (c : Char) : Bool := c ≠ '%' && c ≠ ':'
  let path (cs : List Char) : String := String.ofList (cs.takeWhile (· ≠ ':'))
  match value with
  | '%' :: message =>
    let rest := message.dropWhile goesOn
    ⟨path (if rest.head? = some '%' then rest.drop 1 else rest), String.ofList message⟩
  | cs =>
    match cs.dropWhile goesOn with
    | '%' :: message => ⟨String.ofList (cs.takeWhile goesOn), String.ofList message⟩
    | _ => ⟨path cs, usualMessage⟩

def rests : List Char → List (List Char)
  | [] => []
  | c :: cs => (if c = ':' then [cs] else []) ++ rests cs

def boxes (value : String) : List Box :=
  let named := (value.toList :: rests value.toList).map box
  let shorter := named.getLast?.toList.flatMap fun b =>
    let cs := b.path.toList
    (List.range cs.length).reverse.map fun n => { b with path := String.ofList (cs.take n) }
  (named ++ shorter).take maxBoxes

def look (silent : Bool) : List Box → List (Option Nat) → Sh (List (Option Nat))
  | b :: bs, known :: others => do
    let now ← if b.path = "" then pure known else do
      match ← Sh.ask (.look b.path true) with
      | .error _ => pure none
      | .ok info => do
        let time := some (info.time * Task.tick / 1000000)
        unless silent ∨ time = known do discard (Sh.act (Tool.put 2 (b.message ++ "\n")))
        pure time
    return now :: (← look silent bs others)
  | _, known => return known

def check : Sh Unit := do
  let st ← get
  let value := (st.vars.get? "MAILPATH").getD ((st.vars.get? "MAIL").getD "")
  let known := st.mail ++ List.replicate (maxBoxes - st.mail.length) none
  let mail ← look st.mailMoved (boxes value) known
  modify fun st => { st with mail, mailMoved := false }

end RootedRun.Shell.Mail
