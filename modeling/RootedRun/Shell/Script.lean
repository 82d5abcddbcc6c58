namespace RootedRun.Shell

inductive Rule
  | plain
  | length
  | otherwise (blank : Bool)
  | assign (blank : Bool)
  | instead (blank : Bool)
  | required (blank : Bool)
  | trim (atEnd : Bool) (most : Bool)
  | bad

inductive Way
  | read
  | write
  | clobber
  | append
  | update
  deriving DecidableEq

mutual

/-- Escaped text stands for itself, and a mark is where quotes begin or end. -/
inductive Part
  | text (s : String)
  | escaped (s : String)
  | mark
  | parameter (name : String) (rule : Rule) (word : List Part)
  | arithmetic (word : List Part)
  | command (body : Script)

inductive Redirection
  | file (fd : Nat) (way : Way) (path : List Part)
  | copy (fd : Nat) (source : List Part)
  | document (fd : Nat) (id : Nat)

inductive Script
  | nothing
  | command (line : Nat) (settings words : List (List Part)) (redirections : List Redirection)
  | pipeline (stages : List Script) (background : Bool)
  | background (line : Nat) (body : Script) (redirections : List Redirection)
  | apart (line : Nat) (body : Script) (redirections : List Redirection)
  | redirected (line : Nat) (body : Script) (redirections : List Redirection)
  | negated (body : Script)
  | both (left right : Script)
  | either (left right : Script)
  | sequence (left right : Script)
  | branch (condition yes : Script) (no : Option Script)
  | loop (stopOn : Bool) (condition body : Script)
  | each (line : Nat) (name : String) (words : List (List Part)) (body : Script)
  | choose (line : Nat) (word : List Part) (cases : List (List (List Part) × Script))
  | define (name : String) (body : Script)

end

abbrev Word := List Part

def Word.arguments : Word := [.mark, .parameter "@" .plain [], .mark]

def Word.text : Word → String
  | [] => ""
  | .text s :: r | .escaped s :: r => s ++ Word.text r
  | _ :: r => Word.text r

def Word.bare? : Word → Option String
  | [] => some ""
  | [.text s] => some s
  | _ => none

def isNameStart (c : Char) : Bool := c.isAlpha || c = '_'

def isNameChar (c : Char) : Bool := c.isAlphanum || c = '_'

def isName (s : String) : Bool :=
  match s.toList with
  | [] => false
  | c :: cs => isNameStart c && cs.all isNameChar

def frontName (s : String) : String :=
  match s.toList with
  | [] => ""
  | c :: cs => if isNameStart c then String.ofList (c :: cs.takeWhile isNameChar) else ""

def Word.isSetting : Word → Bool
  | .text s :: _ =>
    let name := frontName s
    name ≠ "" && (s.toList.drop name.length).head? = some '='
  | _ => false

end RootedRun.Shell
