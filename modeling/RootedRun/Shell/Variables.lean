import RootedRun.Shell.Script

namespace RootedRun.Shell

structure Variable where
  name : String
  value : Option String
  exported : Bool
  locked : Bool
  fixed : Bool

inductive Attribute
  | exported
  | readonly
  deriving DecidableEq

abbrev Variables := List Variable

namespace Variables

def find? (vs : Variables) (name : String) : Option Variable := List.find? (·.name = name) vs

def get? (vs : Variables) (name : String) : Option String := (vs.find? name).bind (·.value)

def isLocked (vs : Variables) (name : String) : Bool := (vs.find? name).any (·.locked)

def change (f : Variable → Variable) (name : String) : Variables → Variables
  | [] => [f ⟨name, none, false, false, false⟩]
  | v :: vs => if v.name = name then f v :: vs else v :: change f name vs

def set (vs : Variables) (name value : String) : Variables :=
  change (fun v => { v with value := some value }) name vs

def mark (vs : Variables) (a : Attribute) (name : String) : Variables :=
  change (fun v => match a with
    | .exported => { v with exported := true }
    | .readonly => { v with locked := true }) name vs

def has (a : Attribute) (v : Variable) : Bool :=
  match a with
  | .exported => v.exported
  | .readonly => v.locked

def unset (vs : Variables) (name : String) : Variables :=
  vs.filterMap fun v =>
    if v.name ≠ name then some v
    else if v.fixed then some { v with value := none } else none

def restore (vs : Variables) (name : String) (old : Option Variable) : Variables :=
  match old with
  | some v => change (fun _ => v) name vs
  | none => List.filter (·.name ≠ name) vs

def group (groups : Nat) (name : String) : Nat :=
  let cs := name.toList.map Char.toNat
  (cs.headD 0 * 16 + cs.foldl (· + ·) 0) % groups

def groups : Nat := 39

def environment (vs : Variables) : List (String × String) :=
  let named := vs.filterMap fun v =>
    if v.exported then v.value.map fun s => (group groups v.name, v.name, s) else none
  (named.mergeSort fun a b => a.1 ≤ b.1).map (·.2)

def sorted (vs : Variables) (f : Variable → Bool) : List Variable :=
  (vs.filter f).mergeSort fun a b => a.name ≤ b.name

def blanks : String := " \t\n"

def standardPath : String := "/usr/local/sbin:/usr/local/bin:/usr/sbin:/usr/bin:/sbin:/bin"

def initial : Variables :=
  let fixed (name value : String) : Variable := ⟨name, some value, false, false, true⟩
  [fixed "OPTIND" "1", fixed "PS4" "+ ", fixed "PS2" "> ", fixed "PS1" "# ",
    fixed "PATH" standardPath, fixed "IFS" blanks, ⟨"MAILPATH", none, false, false, true⟩,
    ⟨"MAIL", none, false, false, true⟩]

def separators (vs : Variables) : String := (vs.get? "IFS").getD blanks

def joint (vs : Variables) : String :=
  match vs.get? "IFS" with
  | none => " "
  | some s => String.ofList (s.toList.take 1)

end Variables

def singleQuoted (s : String) : String :=
  go (s.length + 1) s.toList
where
  go : (fuel : Nat) → List Char → String
    | 0, _ => ""
    | fuel + 1, cs =>
      let plain := "'" ++ String.ofList (cs.takeWhile (· ≠ '\'')) ++ "'"
      match cs.dropWhile (· ≠ '\'') with
      | [] => plain
      | cs =>
        let quotes := plain ++ "\"" ++ String.ofList (cs.takeWhile (· = '\'')) ++ "\""
        match cs.dropWhile (· = '\'') with
        | [] => quotes
        | cs => quotes ++ go fuel cs

end RootedRun.Shell
