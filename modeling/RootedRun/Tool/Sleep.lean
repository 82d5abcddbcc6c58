import RootedRun.Tool.Basic
import RootedRun.Tool.Binary64
import RootedRun.Tool.Shown

namespace RootedRun.Tool.Sleep

def unit? : List Char → Option Nat
  | [] | ['s'] => some 1000000
  | ['m'] => some 60000000
  | ['h'] => some 3600000000
  | ['d'] => some 86400000000
  | _ => none

def time? (unit : Nat) : Binary64 → Option (Option Nat)
  | .nan _ => none
  | .infinite negative => if negative then none else some none
  | .finite negative m e =>
    if negative ∧ m ≠ 0 then none
    else
      let (a, b) := Binary64.scale 2 (m * unit) 1 e
      some (some (Binary64.roundDiv a b))

def interval? (word : String) : Option (Option Nat) := do
  let (x, _, rest) ← Binary64.read? word.toList
  time? (← unit? rest) x

def rules : Options.Rules := ⟨[], []⟩

def total (ts : List (Option Nat)) : Option Nat :=
  ts.foldl (fun s t => do return (← s) + (← t)) (some 0)

end Sleep

def sleep : Program := fun c =>
  match c.read Sleep.rules with
  | (_, .error p) => c.turnDown p 1
  | (_, .ok words) => do
    if c.args.isEmpty then return ← c.refuse "missing operand" 1
    match words.filter (Sleep.interval? · |>.isNone) with
    | w :: ws =>
      (w :: ws).dropLast.forM fun w => c.complain ("invalid time interval " ++ c.quoted w)
      c.refuse ("invalid time interval " ++ c.quoted ((w :: ws).getLastD "")) 1
    | [] =>
      match Sleep.total (words.filterMap Sleep.interval?) with
      | none => Act.stall
      | some t => do
        Act.sleep t
        return 0

end RootedRun.Tool
