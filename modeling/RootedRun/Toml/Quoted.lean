import RootedRun.Text.Literal

namespace RootedRun.Toml

def isBlank (c : Char) : Bool := c = ' ' || c = '\t'

def isPlain (c : Char) : Bool := c = '\t' || (0x20 ≤ c.toNat && c.toNat ≠ 0x7f)

def skipBlanks (cs : List Char) : List Char := cs.dropWhile isBlank

def lineEnd? : List Char → Option (List Char)
  | [] => some []
  | '\n' :: r => some r
  | '\r' :: '\n' :: r => some r
  | _ => none

def restOfLine? (cs : List Char) : Option (List Char) :=
  match skipBlanks cs with
  | '#' :: r => lineEnd? (r.dropWhile isPlain)
  | r => lineEnd? r

def skipSpace (comment : Bool) : List Char → List Char
  | [] => []
  | '\n' :: r => skipSpace false r
  | '\r' :: '\n' :: r => skipSpace false r
  | '#' :: r => skipSpace true r
  | c :: r =>
    if if comment then isPlain c else isBlank c then skipSpace comment r else c :: r

def expect? (c : Char) : List Char → Option (List Char)
  | [] => none
  | d :: r => if d = c then some r else none

end RootedRun.Toml

namespace RootedRun.Toml.Quoted

def ofLetter? : Char → Option Char
  | 'b' => some '\x08'
  | 't' => some '\t'
  | 'n' => some '\n'
  | 'f' => some '\x0c'
  | 'r' => some '\r'
  | '"' => some '"'
  | '\\' => some '\\'
  | _ => none

def ofNumber? (digits : List Char) : Option Char :=
  (Text.Hex.read? digits).bind Text.Literal.scalar?

def before (c : Char) (r : Option (List Char × List Char)) : Option (List Char × List Char) :=
  r.map fun (cs, rest) => (c :: cs, rest)

def line : List Char → Option (List Char × List Char)
  | [] => none
  | '"' :: r => some ([], r)
  | '\\' :: 'u' :: a :: b :: c :: d :: r => do before (← ofNumber? [a, b, c, d]) (line r)
  | '\\' :: 'U' :: a :: b :: c :: d :: e :: f :: g :: h :: r => do
    before (← ofNumber? [a, b, c, d, e, f, g, h]) (line r)
  | '\\' :: l :: r => do before (← ofLetter? l) (line r)
  | c :: r => if isPlain c && c ≠ '\\' then before c (line r) else none

def rawLine : List Char → Option (List Char × List Char)
  | [] => none
  | '\'' :: r => some ([], r)
  | c :: r => if isPlain c then before c (rawLine r) else none

/-- Where the reader of a text on several lines stands: within the text, after a backslash that
joins this line to the next, or before the first character of the joined text. -/
inductive Joint
  | text
  | pending
  | joined

def block (joint : Joint) : List Char → Option (List Char × List Char)
  | [] => none
  | ' ' :: r => match joint with
    | .text => before ' ' (block .text r)
    | _ => block joint r
  | '\t' :: r => match joint with
    | .text => before '\t' (block .text r)
    | _ => block joint r
  | '\n' :: r => match joint with
    | .text => before '\n' (block .text r)
    | _ => block .joined r
  | '\r' :: '\n' :: r => match joint with
    | .text => before '\n' (block .text r)
    | _ => block .joined r
  | c :: r => match joint with
    | .pending => none
    | _ => match c, r with
      -- up to two quotes may stand right before the closing ones
      | '"', '"' :: '"' :: '"' :: '"' :: r => some (['"', '"'], r)
      | '"', '"' :: '"' :: '"' :: r => some (['"'], r)
      | '"', '"' :: '"' :: r => some ([], r)
      | '\\', 'u' :: a :: b :: c :: d :: r => do before (← ofNumber? [a, b, c, d]) (block .text r)
      | '\\', 'U' :: a :: b :: c :: d :: e :: f :: g :: h :: r => do
        before (← ofNumber? [a, b, c, d, e, f, g, h]) (block .text r)
      | '\\', ' ' :: r => block .pending r
      | '\\', '\t' :: r => block .pending r
      | '\\', '\n' :: r => block .joined r
      | '\\', '\r' :: '\n' :: r => block .joined r
      | '\\', l :: r => do before (← ofLetter? l) (block .text r)
      | '\\', [] => none
      | c, r => if isPlain c then before c (block .text r) else none

def rawBlock : List Char → Option (List Char × List Char)
  | [] => none
  | '\'' :: '\'' :: '\'' :: '\'' :: '\'' :: r => some (['\'', '\''], r)
  | '\'' :: '\'' :: '\'' :: '\'' :: r => some (['\''], r)
  | '\'' :: '\'' :: '\'' :: r => some ([], r)
  | '\n' :: r => before '\n' (rawBlock r)
  | '\r' :: '\n' :: r => before '\n' (rawBlock r)
  | c :: r => if isPlain c then before c (rawBlock r) else none

def skipFirstLineEnd : List Char → List Char
  | '\n' :: r => r
  | '\r' :: '\n' :: r => r
  | r => r

def text? : List Char → Option (String × List Char)
  | '"' :: '"' :: '"' :: r => (block .text (skipFirstLineEnd r)).map (·.map String.ofList id)
  | '"' :: r => (line r).map (·.map String.ofList id)
  | '\'' :: '\'' :: '\'' :: r => (rawBlock (skipFirstLineEnd r)).map (·.map String.ofList id)
  | '\'' :: r => (rawLine r).map (·.map String.ofList id)
  | _ => none

def name? : List Char → Option (String × List Char)
  | '"' :: r => (line r).map (·.map String.ofList id)
  | '\'' :: r => (rawLine r).map (·.map String.ofList id)
  | _ => none

end RootedRun.Toml.Quoted
