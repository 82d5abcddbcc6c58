namespace RootedRun.Tool.Options

inductive Need
  | never
  | may
  | always
  deriving DecidableEq

/-- `letters` are the switches with whether they take a value; each long name stands for a
letter. -/
structure Rules where
  letters : List (Char × Need)
  names : List (String × Need × Char)

def inquiry : Char := '?'

def Rules.complete (r : Rules) : Rules :=
  { r with names := r.names ++ [("help", .never, inquiry), ("version", .never, inquiry)] }

inductive Problem
  | asked
  | unknownLetter (c : Char)
  | letterNeedsValue (c : Char)
  | unknownName (word : String)
  | ambiguous (word : String) (names : List String)
  | nameNeedsValue (name : String)
  | noValueAllowed (name : String)
  deriving DecidableEq

def Problem.text : Problem → String
  | asked => ""
  | unknownLetter c => "invalid option -- '" ++ c.toString ++ "'"
  | letterNeedsValue c => "option requires an argument -- '" ++ c.toString ++ "'"
  | unknownName w => "unrecognized option '--" ++ w ++ "'"
  | ambiguous w ns => "option '--" ++ w ++ "' is ambiguous; possibilities:"
      ++ String.join (ns.map fun n => " '--" ++ n ++ "'")
  | nameNeedsValue n => "option '--" ++ n ++ "' requires an argument"
  | noValueAllowed n => "option '--" ++ n ++ "' doesn't allow an argument"

abbrev Switch := Char × Option String

inductive Ending
  | whole
  | wants (c : Char) (missing : Problem)
  | wrong (p : Problem)
  deriving DecidableEq

def letters (rules : Rules) : List Char → List Switch × Ending
  | [] => ([], .whole)
  | c :: cs =>
    match rules.letters.lookup c with
    | none => ([], .wrong (.unknownLetter c))
    | some .never =>
      let (ss, ending) := letters rules cs
      ((c, none) :: ss, ending)
    | some .may => ([(c, if cs.isEmpty then none else some (String.ofList cs))], .whole)
    | some .always =>
      if cs.isEmpty then ([], .wants c (.letterNeedsValue c))
      else ([(c, some (String.ofList cs))], .whole)

def named (rules : Rules) (spelling word : String) : Except Problem (String × Need × Char) :=
  match rules.names.find? (·.1 = spelling) with
  | some n => .ok n
  | none =>
    match rules.names.filter (·.1.startsWith spelling) with
    | [] => .error (.unknownName word)
    | n :: ns =>
      match ns.filter (·.2 ≠ n.2) with
      | [] => .ok n
      | others => .error (.ambiguous word ((n :: others).map (·.1)))

def long (rules : Rules) (word : List Char) : List Switch × Ending :=
  let spelling := String.ofList (word.takeWhile (· ≠ '='))
  let value := match word.dropWhile (· ≠ '=') with
    | [] => none
    | _ :: v => some (String.ofList v)
  match named rules spelling (String.ofList word) with
  | .error p => ([], .wrong p)
  | .ok (name, need, c) =>
    match need, value with
    | .never, some _ => ([], .wrong (.noValueAllowed name))
    | .always, none => ([], .wants c (.nameNeedsValue name))
    | _, v => if c = inquiry then ([], .wrong .asked) else ([(c, v)], .whole)

def ofWord? (rules : Rules) (word : String) : Option (List Switch × Ending) :=
  match word.toList with
  | '-' :: '-' :: name => some (long rules name)
  | '-' :: c :: cs => some (letters rules (c :: cs))
  | _ => none

def read (rules : Rules) (inOrder : Bool) : List String → List Switch × Except Problem (List String)
  | [] => ([], .ok [])
  | w :: ws =>
    if w = "--" then ([], .ok ws)
    else match ofWord? rules w, ws with
    | none, ws =>
      if inOrder then ([], .ok (w :: ws))
      else
        let (ss, rest) := read rules inOrder ws
        (ss, rest.map (w :: ·))
    | some (ss, .wrong p), _ => (ss, .error p)
    | some (ss, .wants _ missing), [] => (ss, .error missing)
    | some (ss, .wants c _), v :: ws =>
      let (more, rest) := read rules inOrder ws
      (ss ++ (c, some v) :: more, rest)
    | some (ss, .whole), ws =>
      let (more, rest) := read rules inOrder ws
      (ss ++ more, rest)

end RootedRun.Tool.Options
