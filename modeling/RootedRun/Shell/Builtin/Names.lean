import RootedRun.Shell.Programs

namespace RootedRun.Shell.Builtin

def grouped (groups : Nat) (es : List (String × α)) : List (String × α) :=
  es.mergeSort fun a b => Variables.group groups a.1 ≤ Variables.group groups b.1

def aliasLine (a : String × String) : String := a.1 ++ "=" ++ singleQuoted a.2 ++ "\n"

def aliasOf? (word : String) : Option (String × String) :=
  match word.toList with
  | [] => none
  | c :: cs =>
    match cs.dropWhile (· ≠ '=') with
    | [] => none
    | _ :: text =>
      some (String.ofList (c :: cs.takeWhile (· ≠ '=')), String.ofList text)

def aliases : Builtin := fun _ _ args => do
  if args.isEmpty then
    Sh.say (String.join ((grouped Variables.groups (← get).aliases).map aliasLine))
  else
    let told ← args.mapM fun word => do
      match aliasOf? word with
      | some (name, text) =>
        modify fun st => { st with aliases := Programs.remember name text st.aliases }
        return some ""
      | none =>
        match (← get).aliases.lookup word with
        | some text => return some (aliasLine (word, text))
        | none =>
          discard (Sh.act (Tool.put 2 ("alias: " ++ word ++ " not found\n")))
          return none
    let status ← Sh.say (String.join (told.filterMap id))
    return if told.contains none then 1 else status

def unalias : Builtin := fun _ _ args => do
  let (switches, words) ← switches "a" "" args
  if ¬ switches.isEmpty then
    modify fun st => { st with aliases := [] }
    return 0
  else
    let found ← words.mapM fun name => do
      let st ← get
      if (st.aliases.lookup name).isSome then
        set { st with aliases := st.aliases.filter (·.1 ≠ name) }
        return true
      else
        discard (Sh.act (Tool.put 2 ("unalias: " ++ name ++ " not found\n")))
        return false
    return if found.all id then 0 else 1

def hash : Builtin := fun r _ args => do
  let (switches, names) ← switches "r" "" args
  if ¬ switches.isEmpty then
    modify fun st => { st with tracks := [] }
    return 0
  else if names.isEmpty then
    let path ← Programs.path
    Sh.say (String.join ((grouped 31 (← get).tracks).map fun (name, t) =>
      Programs.pathAt path t.index name ++ (if t.stale then "*\n" else "\n")))
  else
    let found ← names.mapM fun name => do
      modify fun st => { st with tracks := st.tracks.filter (·.1 ≠ name) }
      if ((← get).functions.lookup name).isSome then return true
      match ← Programs.find name false none with
      | .ok (.definition path) =>
        Definitions.load r name path
        return true
      | .ok _ => return true
      | .error f =>
        Sh.complain (name ++ ": " ++ Programs.faultText f)
        return false
    return if found.all id then 0 else 1

def standing (r : Runner) (name : String) (path : Option String) (before : Sh Unit) :
    Sh (Option (String × String)) := do
  let st ← get
  let ofFunction := some (name, " is a shell function")
  let ofPath (p manner : String) : Option (String × String) := some (p, " is" ++ manner ++ " " ++ p)
  if (st.functions.lookup name).isSome then return ofFunction
  match if path.isNone then st.tracks.lookup name else none with
  | some t =>
    return ofPath (Programs.pathAt (← Programs.path) t.index name) " a tracked alias for"
  | none =>
    if name.contains '/' then
      match ← Sh.ask (.look name true) with
      | .ok _ => return ofPath name ""
      | .error _ => return none
    match ← Programs.find name false path with
    | .ok .builtin =>
      return some (name, " is a " ++ (if isSpecial name then "special " else "") ++ "shell builtin")
    | .ok (.definition file) =>
      before
      Definitions.load r name file
      return ofFunction
    | .ok (.program _ paths) => return ofPath (paths.headD name) ""
    | .error _ => return none

def describe (r : Runner) (path : Option String) (long : Bool) :
    (told : String) → (status : Nat) → List String → Sh Nat
  | told, status, [] => return status ||| (← Sh.say told)
  | told, status, name :: names => do
    let front := if long then told ++ name else told
    if Token.keywords.contains name then
      return ← describe r path long
        (front ++ (if long then " is a shell keyword\n" else name ++ "\n")) status names
    match (← get).aliases.lookup name with
    | some text =>
      describe r path long (front ++ (if long then " is an alias for " ++ text ++ "\n"
        else "alias " ++ aliasLine (name, text))) status names
    | none =>
      let functions := (← get).functions
      let found ← standing r name path (discard (Sh.say front))
      let isRead := (functions.lookup name).isNone && ((← get).functions.lookup name).isSome
      let front := if isRead then "" else front
      match found with
      | some (short, sentence) =>
        describe r path long (front ++ (if long then sentence else short) ++ "\n") status names
      | none => describe r path long (if long then front ++ ": not found\n" else front) 127 names

def type : Builtin := fun r _ args => describe r none true "" 0 args

def command : Builtin := fun r _ args => do
  let (switches, words) ← switches "pvV" "" args
  let path := if has switches 'p' then some Variables.standardPath else none
  if has switches 'v' ∨ has switches 'V' then
    describe r path (has switches 'V') "" 0 (words.take 1)
  else return 0

end RootedRun.Shell.Builtin
