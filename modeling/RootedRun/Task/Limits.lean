namespace RootedRun.Task

inductive Resource
  | time
  | fileSize
  | data
  | stack
  | core
  | memory
  | lockedMemory
  | processes
  | descriptors
  | space
  | locks
  | priority
  deriving DecidableEq

structure Limit where
  soft : Option Nat
  hard : Option Nat
  deriving DecidableEq

inductive Limit.Fault
  | invalid
  | notPermitted
  deriving DecidableEq

def Limit.Fault.text : Limit.Fault → String
  | invalid => "Invalid argument"
  | notPermitted => "Operation not permitted"

def Limit.isWithin : Option Nat → Option Nat → Bool
  | _, none => true
  | none, some _ => false
  | some a, some b => a ≤ b

abbrev Limits := List (Resource × Limit)

namespace Limits

def usual : Limits :=
  let exactly (n : Nat) : Limit := ⟨some n, some n⟩
  [(.descriptors, exactly 20000), (.stack, ⟨some 8388608, none⟩), (.core, ⟨some 0, none⟩),
    (.lockedMemory, exactly 8388608), (.processes, exactly 128619), (.priority, exactly 0)]

def of (ls : Limits) (r : Resource) : Limit := (ls.lookup r).getD ⟨none, none⟩

def put (ls : Limits) (r : Resource) (l : Limit) : Limits := (r, l) :: ls.filter (·.1 ≠ r)

def change (ls : Limits) (r : Resource) (l : Limit) : Except Limit.Fault Limits :=
  if ! Limit.isWithin l.soft l.hard then .error .invalid
  else if ! Limit.isWithin l.hard (ls.of r).hard then .error .notPermitted
  else .ok (ls.put r l)

def longestText : Nat := 131072

/-- Whether a program can be started with these texts, which have to fit in a part of its stack
together with what tells where they are. -/
def carries (ls : Limits) (texts : List String) : Bool :=
  let sizes := texts.map (·.length + 1)
  let room := ((ls.of .stack).soft.map (· / 4)).getD mostText
  sizes.all (· ≤ longestText)
    && sizes.foldl (· + · + 8) 0 ≤ max longestText (min room mostText)
where mostText : Nat := 6291456

end Limits

end RootedRun.Task
