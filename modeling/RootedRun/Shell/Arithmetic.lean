import RootedRun.Shell.Script
import RootedRun.Tool.Numeral

namespace RootedRun.Shell.Arithmetic

inductive Fault
  | divisionByZero
  | noOperand
  | trailing
  | unclosed
  | noColon
  | tooLarge
  deriving DecidableEq

def Fault.message (expression : String) (f : Fault) : String :=
  "arithmetic expression: " ++ kind ++ ": \"" ++ expression ++ "\""
where
  kind : String :=
    match f with
    | divisionByZero | tooLarge => "division by zero"
    | noOperand => "expecting primary"
    | trailing => "expecting EOF"
    | unclosed => "expecting ')'"
    | noColon => "expecting ':'"

inductive Operator
  | times
  | divide
  | modulo
  | plus
  | minus
  | shiftLeft
  | shiftRight
  | less
  | atMost
  | greater
  | atLeast
  | equal
  | unequal
  | bitAnd
  | bitXor
  | bitOr
  deriving DecidableEq

namespace Operator

def signs : List (String × Operator) := [
  ("<<", shiftLeft), (">>", shiftRight), ("<=", atMost), (">=", atLeast), ("==", equal),
  ("!=", unequal), ("*", times), ("/", divide), ("%", modulo), ("+", plus), ("-", minus),
  ("<", less), (">", greater), ("&", bitAnd), ("^", bitXor), ("|", bitOr)]

def level : Operator → Nat
  | times | divide | modulo => 7
  | plus | minus => 6
  | shiftLeft | shiftRight => 5
  | less | atMost | greater | atLeast => 4
  | equal | unequal => 3
  | bitAnd => 2
  | bitXor => 1
  | bitOr => 0

def assigns (o : Operator) : Bool := o.level ≠ 4 && o.level ≠ 3

def truth (b : Bool) : Int64 := if b then 1 else 0

def dividing (f : Int64 → Int64 → Int64) (a b : Int64) : Except Fault Int64 :=
  if b = 0 then .error .divisionByZero
  else if b = -1 ∧ a = Int64.minValue then .error .tooLarge
  else .ok (f a b)

def apply (o : Operator) (a b : Int64) : Except Fault Int64 :=
  match o with
  | times => .ok (a * b)
  | divide => dividing (· / ·) a b
  | modulo => dividing (· % ·) a b
  | plus => .ok (a + b)
  | minus => .ok (a - b)
  | shiftLeft => .ok (a <<< b)
  | shiftRight => .ok (a >>> b)
  | less => .ok (truth (a < b))
  | atMost => .ok (truth (a ≤ b))
  | greater => .ok (truth (b < a))
  | atLeast => .ok (truth (b ≤ a))
  | equal => .ok (truth (a == b))
  | unequal => .ok (truth (a != b))
  | bitAnd => .ok (a &&& b)
  | bitXor => .ok (a ^^^ b)
  | bitOr => .ok (a ||| b)

end Operator

inductive Lexeme
  | number (n : Int64)
  | name (s : String)
  | operator (o : Operator)
  | assign (o : Option Operator)
  | and
  | or
  | not
  | complement
  | opening
  | closing
  | question
  | colon
  | unknown

def operator? (cs : List Char) : Option (Operator × List Char) :=
  Operator.signs.findSome? fun (s, o) =>
    if s.toList.isPrefixOf cs then some (o, cs.drop s.length) else none

def sign (c : Char) (r : List Char) : Lexeme × List Char :=
  match c, r with
  | '&', '&' :: r => (.and, r)
  | '|', '|' :: r => (.or, r)
  | '(', r => (.opening, r)
  | ')', r => (.closing, r)
  | '?', r => (.question, r)
  | ':', r => (.colon, r)
  | '~', r => (.complement, r)
  | c, r =>
    match operator? (c :: r) with
    | some (o, '=' :: r) => if o.assigns then (.assign (some o), r) else (.operator o, '=' :: r)
    | some (o, r) => (.operator o, r)
    | none =>
      if c = '!' then (.not, r) else if c = '=' then (.assign none, r) else (.unknown, r)

def lexemes : (fuel : Nat) → List Char → List Lexeme
  | 0, _ | _, [] => []
  | fuel + 1, c :: r =>
    if c = ' ' ∨ c = '\t' ∨ c = '\n' then lexemes fuel r
    else match Tool.Numeral.leading? (c :: r) with
    | some (n, r) => .number (Int64.ofInt (Tool.Numeral.clamp n)) :: lexemes fuel r
    | none =>
      if isNameStart c then
        .name (String.ofList (c :: r.takeWhile isNameChar)) :: lexemes fuel (r.dropWhile isNameChar)
      else
        let (l, r) := sign c r
        l :: lexemes fuel r

inductive Expr
  | number (n : Int64)
  | ofName (name : String)
  | binary (o : Operator) (a b : Expr)
  | and (a b : Expr)
  | or (a b : Expr)
  | choice (a b c : Expr)
  | assign (name : String) (o : Option Operator) (a : Expr)
  | negative (a : Expr)
  | not (a : Expr)
  | complement (a : Expr)
  | wrong (f : Fault)
  | before (a : Expr) (f : Fault)

def orLevel : Nat := 2

def andLevel : Nat := 3

def operatorLevel : Nat := 4

def operandLevel : Nat := 12

def expr : (fuel level : Nat) → List Lexeme → Expr × List Lexeme
  | 0, _, _ => (.wrong .noOperand, [])
  | fuel + 1, 0, .name v :: .assign o :: r =>
    let (a, r) := expr fuel 0 r
    (.assign v o a, r)
  | fuel + 1, 0, ls => expr fuel 1 ls
  | fuel + 1, 1, ls =>
    let (a, r) := expr fuel orLevel ls
    match r with
    | .question :: r =>
      let (b, r) := expr fuel 0 r
      match r with
      | .colon :: r =>
        let (c, r) := expr fuel 1 r
        (.choice a b c, r)
      | _ => (.choice a b (.wrong .noColon), [])
    | r => (a, r)
  | fuel + 1, level, ls =>
    if level < operandLevel then
      let (a, r) := expr fuel (level + 1) ls
      more fuel level a r
    else
      match ls with
      | .number n :: r => (.number n, r)
      | .name v :: r => (.ofName v, r)
      | .operator .plus :: r => expr fuel operandLevel r
      | .operator .minus :: r => inside Expr.negative (expr fuel operandLevel r)
      | .not :: r => inside Expr.not (expr fuel operandLevel r)
      | .complement :: r => inside Expr.complement (expr fuel operandLevel r)
      | .opening :: r =>
        match expr fuel 0 r with
        | (a, .closing :: r) => (a, r)
        | (a, _) => (.before a .unclosed, [])
      | _ => (.wrong .noOperand, [])
where
  inside (f : Expr → Expr) (p : Expr × List Lexeme) : Expr × List Lexeme := (f p.1, p.2)
  more : (fuel level : Nat) → Expr → List Lexeme → Expr × List Lexeme
  | 0, _, _, _ => (.wrong .noOperand, [])
  | fuel + 1, level, a, ls =>
    match ls with
    | .or :: r =>
      if level ≠ orLevel then (a, ls)
      else
        let (b, r) := expr fuel (level + 1) r
        more fuel level (.or a b) r
    | .and :: r =>
      if level ≠ andLevel then (a, ls)
      else
        let (b, r) := expr fuel (level + 1) r
        more fuel level (.and a b) r
    | .operator o :: r =>
      if level ≠ operatorLevel + o.level then (a, ls)
      else
        let (b, r) := expr fuel (level + 1) r
        more fuel level (.binary o a b) r
    | ls => (a, ls)

def read (text : String) : Expr :=
  let cs := text.toList
  let ls := lexemes (cs.length + 1) cs
  match expr (32 * (ls.length + 2)) 0 ls with
  | (a, []) => a
  | (a, _) => .before a .trailing

structure Access (m : Type → Type) where
  get : String → m Int64
  set : String → Int64 → m Unit
  fault : Fault → m Int64

/-- The value of an expression. Where it does not matter it is not `live`: nothing is had or set,
and only faults of form are met. -/
def Expr.eval [Monad m] (access : Access m) (live : Bool) : Expr → m Int64
  | number n => return n
  | ofName v => if live then access.get v else return 0
  | binary o a b => do
    let x ← a.eval access live
    let y ← b.eval access live
    if live then operate o x y else return y
  | and a b => do
    let x ← a.eval access live
    let y ← b.eval access (live && x != 0)
    return Operator.truth (x != 0 && y != 0)
  | or a b => do
    let x ← a.eval access live
    let y ← b.eval access (live && x == 0)
    return Operator.truth (x != 0 || y != 0)
  | choice a b c => do
    let x ← a.eval access live
    let y ← b.eval access (live && x != 0)
    let z ← c.eval access (live && x == 0)
    return if x != 0 then y else z
  | assign v o a => do
    let y ← a.eval access live
    if live then
      let y ← match o with
        | none => pure y
        | some o => operate o (← access.get v) y
      access.set v y
      return y
    else return y
  | negative a => return -(← a.eval access live)
  | not a => return Operator.truth ((← a.eval access live) == 0)
  | complement a => return ~~~(← a.eval access live)
  | wrong f => access.fault f
  | before a f => do
    discard (a.eval access live)
    access.fault f
where
  operate (o : Operator) (x y : Int64) : m Int64 :=
    match o.apply x y with
    | .ok z => return z
    | .error f => access.fault f

end RootedRun.Shell.Arithmetic
