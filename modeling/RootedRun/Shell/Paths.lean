import RootedRun.Shell.Pattern
import RootedRun.Task.Basic

namespace RootedRun.Shell.Paths

open Pattern (Sign Item)

def isLiteral (ps : List Item) : Bool := ps.all fun
  | .char _ => true
  | _ => false

def components : List Sign → List (List Sign)
  | [] => [[]]
  | s :: ss =>
    match components ss with
    | [] => [[s]]
    | g :: gs => if s.1 = '/' then [] :: g :: gs else (s :: g) :: gs

def text (ss : List Sign) : String := String.ofList (ss.map (·.1))

def matching (component : List Sign) (names : List String) : List String :=
  let p := Pattern.ofSigns component
  names.filter fun n =>
    Pattern.covers p n.toList && (! n.startsWith "." || (component.head?.map (·.1)) = some '.')

def expand (start : String) (found : Bool) : List (List Sign) → Act (List String)
  | [] => return []
  | c :: cs =>
    if isLiteral (Pattern.ofSigns c) then
      match cs with
      | [] => do
        let path := start ++ text c
        match ← Act.ask (.look path false) with
        | .ok _ => return if found then [path] else []
        | .error _ => return []
      | cs => expand (start ++ text c ++ "/") found cs
    else do
      let names := matching c (← Act.ask (.list (if start = "" then "." else start)))
      match cs with
      | [] => return names.map (start ++ ·)
      | cs => do
        let paths ← names.mapM fun n => expand (start ++ n ++ "/") true cs
        return paths.flatten

def ofField (asked : Bool) (field : List Glyph) : Act (List String) := do
  let ss := Pattern.signs field
  if ¬ asked ∨ isLiteral (Pattern.ofSigns ss) then return [Glyph.text field]
  match ← expand "" false (components ss) with
  | [] => return [Glyph.text field]
  | ps => return ps.mergeSort (· ≤ ·)

end RootedRun.Shell.Paths
