import RootedRun.Shell.Builtin.Basic
import RootedRun.Shell.Programs

namespace RootedRun.Shell.Builtin

def realPlace : Sh String := do
  return "/" ++ String.intercalate "/" (← Sh.ask .place)

def straight (path : String) : String :=
  let start := match path.toList with
    | '/' :: '/' :: '/' :: _ => "/"
    | '/' :: '/' :: _ => "//"
    | _ => "/"
  let names := (path.toList.splitOn '/').map String.ofList
  let names := names.foldl (fun ns n => match n with
    | "" | "." => ns
    | ".." => ns.tail
    | n => n :: ns) []
  start ++ String.intercalate "/" names.reverse

def destination (place path : String) : String :=
  straight (if path.startsWith "/" then path
    else if place.endsWith "/" then place ++ path else place ++ "/" ++ path)

def setPlace (place : String) (remembers : Bool) : Sh Unit := do
  if remembers then
    Sh.setVar "OLDPWD" (← get).place
    Sh.markVar .exported "OLDPWD"
  modify fun st => { st with place }
  Sh.setVar "PWD" place
  Sh.markVar .exported "PWD"

def goTo (path : String) (isReal : Bool) : Sh Bool := do
  let st ← get
  let path := if isReal then path else destination st.place path
  match ← Sh.ask (.enter path) with
  | .error _ => return false
  | .ok () =>
    setPlace (← if isReal then realPlace else pure path) true
    modify fun st => { st with
      tracks := st.tracks.map fun (name, t) => (name, { t with stale := true }) }
    return true

def isFixed (path : String) : Bool :=
  match path.toList with
  | '/' :: _ | ['.'] | '.' :: '/' :: _ | ['.', '.'] | '.' :: '.' :: '/' :: _ => true
  | _ => false

def firstThere (path : String) : List String → Sh (Option (String × Bool))
  | [] => return none
  | dir :: dirs => do
    let p := Lookup.location dir path
    match ← Sh.ask (.look p true) with
    | .ok info =>
      if info.kind = .directory then return some (p, dir ≠ "") else firstThere path dirs
    | .error _ => firstThere path dirs

def asksReal (switches : List Switch) : Bool := (switches.getLast?.map (·.1)) = some 'P'

def cd : Builtin := fun _ _ args => do
  let (switches, words) ← switches "LP" "" args
  let isReal := asksReal switches
  let vars := (← get).vars
  let (path, isTold) := match words with
    | [] => ((vars.get? "HOME").getD "", false)
    | "-" :: _ => ((vars.get? "OLDPWD").getD "", true)
    | w :: _ => (w, false)
  let dirs := if isFixed path then none else vars.get? "CDPATH"
  let path := if path = "" then "." else path
  let found ← (dirs.map (firstThere path ∘ Lookup.dirs)).getD (pure none)
  let (there, isTold) := (found.map fun (p, named) => (p, isTold || named)).getD (path, isTold)
  unless ← goTo there isReal do Sh.fail ("can't cd to " ++ path)
  if isTold then Sh.say ((← get).place ++ "\n") else return 0

def pwd : Builtin := fun _ _ args => do
  let (switches, _) ← switches "LP" "" args
  let place ← if asksReal switches then realPlace else pure (← get).place
  Sh.say (place ++ "\n")

end RootedRun.Shell.Builtin
