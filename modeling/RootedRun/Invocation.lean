namespace RootedRun

structure Invocation where
  program : String
  args : List String
  deriving DecidableEq

def Invocation.words (i : Invocation) : List String := i.program :: i.args

/-- A name with a slash in it is a path already and is never looked up. -/
def Qualified (name : String) : Prop := '/' ∈ name.toList

instance (name : String) : Decidable (Qualified name) :=
  inferInstanceAs (Decidable (_ ∈ _))

structure Token where
  id : Nat
  deriving DecidableEq

abbrev Cancelled := List Token

def Cancelled.add (c : Cancelled) (t : Token) : Cancelled := t :: c

def Cancelled.covers (c : Cancelled) : Option Token → Bool
  | none => false
  | some t => c.contains t

inductive Exit
  | code (n : Nat)
  | signal (n : Nat)
  deriving DecidableEq

end RootedRun
