import RootedRun.Toml.Quoted
import RootedRun.Toml.Table

namespace RootedRun.Toml

def maxDepth : Nat := 80

def isBareKey (c : Char) : Bool := c.isAlphanum || c = '_' || c = '-'

namespace Document

def name? (cs : List Char) : Option (String × List Char) :=
  match cs.takeWhile isBareKey with
  | [] => Quoted.name? cs
  | ds => some (String.ofList ds, cs.dropWhile isBareKey)

def names? (fuel : Nat) (cs : List Char) : Option (List String × List Char) :=
  match fuel with
  | 0 => none
  | fuel + 1 => do
    let (name, r) ← name? (skipBlanks cs)
    match skipBlanks r with
    | '.' :: r =>
      let (ns, r) ← names? fuel r
      return (name :: ns, r)
    | r => return ([name], r)

def path? (cs : List Char) : Option (List String × List Char) := names? (maxDepth - 1) cs

abbrev ReadValue := List Char → Option (Value × List Char)

def pair? (value : ReadValue) (cs : List Char) : Option ((List String × Value) × List Char) := do
  let (path, r) ← path? cs
  let (v, r) ← value (skipBlanks (← expect? '=' r))
  return ((path, v), r)

def elements? (value : ReadValue) (fuel : Nat) (cs : List Char) :
    Option (List Value × List Char) :=
  match fuel with
  | 0 => none
  | fuel + 1 =>
    match skipSpace false cs with
    | ']' :: r => some ([], r)
    | cs => do
      let (v, r) ← value cs
      match skipSpace false r with
      | ',' :: r =>
        let (vs, r) ← elements? value fuel r
        return (v :: vs, r)
      | ']' :: r => return ([v], r)
      | _ => none

def pairs? (value : ReadValue) (fuel : Nat) (cs : List Char) :
    Option (List (List String × Value) × List Char) :=
  match fuel with
  | 0 => none
  | fuel + 1 => do
    let (p, r) ← pair? value cs
    match skipBlanks r with
    | ',' :: r =>
      let (ps, r) ← pairs? value fuel r
      return (p :: ps, r)
    | '\x7d' :: r => return ([p], r)
    | _ => none

def braces? (value : ReadValue) (cs : List Char) : Option (Value × List Char) :=
  match skipBlanks cs with
  | '\x7d' :: r => some (.table [], r)
  | r => do
    let (ps, r) ← pairs? value r.length r
    return (.table (← Table.ofStatements? (ps.map fun p => .value p.1 p.2)), r)

def scalar? (cs : List Char) : Option (Value × List Char) :=
  match cs with
  | 't' :: 'r' :: 'u' :: 'e' :: r => some (.bool true, r)
  | 'f' :: 'a' :: 'l' :: 's' :: 'e' :: r => some (.bool false, r)
  | '"' :: _ | '\'' :: _ => (Quoted.text? cs).map fun (s, r) => (.text s, r)
  | _ =>
    match Moment.read cs with
    | some (m, r) => some (.moment m, r)
    | none => (Number.read cs).map fun (n, r) => (.number n, r)

def value? : Nat → ReadValue
  | 0 => scalar?
  | depth + 1 => fun cs =>
    match cs with
    | '[' :: r => (elements? (value? depth) r.length r).map fun (vs, r) => (.list vs, r)
    | '\x7b' :: r => braces? (value? depth) r
    | _ => scalar? cs

def statement? (cs : List Char) : Option (Statement × List Char) :=
  match cs with
  | '[' :: '[' :: r => do
    let (path, r) ← path? r
    return (.element path, ← restOfLine? (← expect? ']' (← expect? ']' r)))
  | '[' :: r => do
    let (path, r) ← path? r
    return (.header path, ← restOfLine? (← expect? ']' r))
  | _ => do
    let ((path, v), r) ← pair? (value? (maxDepth - 1)) cs
    return (.value path v, ← restOfLine? r)

def statements? (fuel : Nat) (cs : List Char) : Option (List Statement) :=
  match fuel with
  | 0 => none
  | fuel + 1 =>
    match skipSpace false cs with
    | [] => some []
    | cs => do
      let (s, r) ← statement? cs
      return s :: (← statements? fuel r)

def skipMark : List Char → List Char
  | '\ufeff' :: r => r
  | r => r

end Document

def parse? (s : String) : Option Table := do
  let cs := Document.skipMark s.toList
  Table.ofStatements? (← Document.statements? (cs.length + 1) cs)

end RootedRun.Toml
