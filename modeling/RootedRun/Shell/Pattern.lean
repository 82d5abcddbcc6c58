import RootedRun.Shell.Glyph

namespace RootedRun.Shell.Pattern

inductive Class
  | alnum
  | alpha
  | blank
  | cntrl
  | digit
  | graph
  | lower
  | print
  | punct
  | space
  | upper
  | xdigit

namespace Class

def names : List (String × Class) := [
  ("alnum", .alnum), ("alpha", .alpha), ("blank", .blank), ("cntrl", .cntrl), ("digit", .digit),
  ("graph", .graph), ("lower", .lower), ("print", .print), ("punct", .punct), ("space", .space),
  ("upper", .upper), ("xdigit", .xdigit)]

def holds (c : Char) : Class → Bool
  | alnum => c.isAlphanum
  | alpha => c.isAlpha
  | blank => c = ' ' || c = '\t'
  | cntrl => c < ' ' || c = '\x7f'
  | digit => c.isDigit
  | graph => '!' ≤ c && c ≤ '~'
  | lower => c.isLower
  | print => ' ' ≤ c && c ≤ '~'
  | punct => '!' ≤ c && c ≤ '~' && ! c.isAlphanum
  | space => c = ' ' || ('\t' ≤ c && c ≤ '\r')
  | upper => c.isUpper
  | xdigit => c.isDigit || ('a' ≤ c && c ≤ 'f') || ('A' ≤ c && c ≤ 'F')

end Class

inductive Member
  | range (first last : Char)
  | ofClass (k : Class)

inductive Item
  | any
  | one
  | char (c : Char)
  | oneOf (negated : Bool) (members : List Member)

abbrev Sign := Char × Bool

def signs : List Glyph → List Sign
  | [] => []
  | .char '\\' false _ :: gs => hidden gs
  | .char c quoted _ :: gs => (c, quoted) :: signs gs
  | .mark :: gs | .span _ :: gs => signs gs
where
  hidden : List Glyph → List Sign
  | [] => [('\\', true)]
  | .char c false _ :: gs | .char c true _ :: gs => (c, true) :: signs gs
  | .mark :: .char c true l :: gs => ('\\', true) :: signs (.char c true l :: gs)
  | .mark :: gs | .span _ :: gs => hidden gs

def rank (c : Char) : Int := if c.toNat < 128 then c.toNat else (c.toNat : Int) - 256

def Member.holds (c : Char) : Member → Bool
  | range a b => rank a ≤ rank c && rank c ≤ rank b
  | ofClass k => k.holds c

def class? (ss : List Sign) : Option (Class × List Sign) :=
  match ss with
  | (':', false) :: r =>
    Class.names.findSome? fun (name, k) =>
      let n := name.length
      if (r.take (n + 2)) = (name ++ ":]").toList.map (·, false) then some (k, r.drop (n + 2))
      else none
  | _ => none

def members : (fuel : Nat) → (first : Bool) → List Sign → Option (List Member × List Sign)
  | 0, _, _ | _, _, [] => none
  | fuel + 1, first, (c, literal) :: r =>
    if c = ']' ∧ ¬ literal ∧ ¬ first then some ([], r)
    else
      match if c = '[' ∧ ¬ literal then class? r else none with
      | some (k, r) => (members fuel false r).map fun (ms, r) => (.ofClass k :: ms, r)
      | none =>
        match r with
        | ('-', false) :: (d, literal) :: r' =>
          if d = ']' ∧ ¬ literal then
            (members fuel false r).map fun (ms, r) => (.range c c :: ms, r)
          else (members fuel false r').map fun (ms, r) => (.range c d :: ms, r)
        | r => (members fuel false r).map fun (ms, r) => (.range c c :: ms, r)

def set? (ss : List Sign) : Option (Item × List Sign) :=
  let (negated, ss) := match ss with
    | ('!', false) :: r => (true, r)
    | r => (false, r)
  (members (ss.length + 1) true ss).map fun (ms, r) => (.oneOf negated ms, r)

def items : (fuel : Nat) → List Sign → List Item
  | 0, _ | _, [] => []
  | fuel + 1, (c, literal) :: r =>
    match literal, c with
    | false, '*' => .any :: items fuel r
    | false, '?' => .one :: items fuel r
    | false, '[' =>
      match set? r with
      | some (i, r) => i :: items fuel r
      | none => .char '[' :: items fuel r
    | _, c => .char c :: items fuel r

def ofSigns (ss : List Sign) : List Item := items (ss.length + 1) ss

def ofGlyphs (gs : List Glyph) : List Item := ofSigns (signs gs)

def fits (c : Char) : Item → Bool
  | .any | .one => true
  | .char d => c = d
  | .oneOf negated ms => ms.any (·.holds c) ≠ negated

def skips : List Item → List (List Item)
  | .any :: ps => (.any :: ps) :: skips ps
  | ps => [ps]

def insert (p : List Item) (ps : List (List Item)) : List (List Item) :=
  if ps.any (·.length = p.length) then ps else p :: ps

def unite (ps qs : List (List Item)) : List (List Item) := ps.foldr insert qs

def after (c : Char) (left : List (List Item)) : List (List Item) :=
  left.foldl (fun ps p => match p with
    | [] => ps
    | .any :: r => unite (skips (.any :: r)) ps
    | i :: r => if fits c i then unite (skips r) ps else ps) []

def walk (left : List (List Item)) (cs : List Char) : List (List Item) :=
  cs.foldl (fun left c => if left.isEmpty then left else after c left) left

def covers (p : List Item) (cs : List Char) : Bool := (walk (skips p) cs).any (·.isEmpty)

def front? (most : Bool) (left : List (List Item)) (n : Nat) (best : Option Nat) :
    List Char → Option Nat
  | [] => if left.any (·.isEmpty) then some n else best
  | c :: cs =>
    let best := if left.any (·.isEmpty) then some n else best
    if left.isEmpty ∨ (best.isSome ∧ ¬ most) then best
    else front? most (after c left) (n + 1) best cs

def atFront? (most : Bool) (p : List Item) (cs : List Char) : Option Nat :=
  front? most (skips p) 0 none cs

/-- How long what is before a part that a pattern covers at the end of a text is; the text is read
from there. -/
def beforeEnd? (most : Bool) (p : List Item) (cs : List Char) : Option Nat :=
  (atFront? most p.reverse cs.reverse).map (cs.length - ·)

def extent (fields : List (List Char)) : Nat :=
  fields.foldl (fun n f => n + f.length + 1) 0 - 1

def takenOffFront (most : Bool) (p : List Item) : List (List Char) → Nat
  | [] => 0
  | f :: fs =>
    let n := (atFront? most p f).getD 0
    if most ∧ (atFront? most p f).isSome ∧ n = f.length then extent (f :: fs) else n

def keptOfEnd (most : Bool) (p : List Item) : List (List Char) → Nat
  | [] => 0
  | f :: fs =>
    if most then (beforeEnd? true p f).getD (extent (f :: fs))
    else
      let rec shortest : List (List Char) → Option Nat
        | [] => none
        | f :: fs =>
          match shortest fs with
          | some n => some (f.length + 1 + n)
          | none => beforeEnd? false p f
      (shortest (f :: fs)).getD (extent (f :: fs))

end RootedRun.Shell.Pattern
