namespace RootedRun.Shell

/-- A mark is left of a pair of quotes, which may hold nothing. A span is where an expansion begins;
in a solid one only the sign between arguments cuts. -/
inductive Glyph
  | char (c : Char) (quoted : Bool) (loose : Bool)
  | mark
  | span (solid : Bool)

namespace Glyph

def ofText (quoted loose : Bool) (s : String) : List Glyph :=
  s.toList.map (.char · quoted loose)

def char? : Glyph → Option Char
  | char c .. => some c
  | _ => none

def text (gs : List Glyph) : String := String.ofList (gs.filterMap char?)

def between : Char := '\x00'

def isBlank (c : Char) : Bool := c = ' ' || c = '\t' || c = '\n' || c = between

end Glyph

namespace Fields

structure Cutting where
  done : List (List Glyph)
  field : List Glyph
  after : Bool
  spans : Bool
  solid : Bool
  wasSolid : Bool
  most : Option Nat
  kept : Option (List Glyph)

def start (most : Option Nat) : Cutting := ⟨[], [], false, false, false, false, most, none⟩

def Cutting.takeLast (s : Cutting) (g : Glyph) (cuts blank : Bool) : Cutting :=
  let s' := { s with field := g :: s.field }
  if blank then { s' with kept := s.kept.or (some s.field) }
  else { s' with kept := if cuts ∧ s.after then s.kept else none, after := false }

def Cutting.finish (s : Cutting) (g : Glyph) (blank : Bool) : Cutting :=
  let after := if s.wasSolid ∨ s.solid then s.after else blank
  if s.field.isEmpty ∧ after then { s with after := false }
  else if s.most = some 1 then
    { s with most := some 0, kept := some s.field, field := g :: s.field, after }
  else
    { s with
      done := s.field.reverse :: s.done, field := [], after, most := s.most.map (· - 1) }

def Cutting.take (ifs : List Char) (s : Cutting) (g : Glyph) : Cutting :=
  match g with
  | .mark | .char _ _ false => { s with field := g :: s.field }
  | .span solid => { s with spans := true, wasSolid := s.solid, solid, after := false }
  | .char c quoted true =>
    let cuts := ! quoted && (c = Glyph.between || (! s.solid && ifs.contains c))
    let blank := cuts && Glyph.isBlank c
    if s.most = some 0 then s.takeLast g cuts blank
    else if s.after then
      { s with field := if cuts then [] else [g], after := blank }
    else if cuts then s.finish g blank
    else { s with field := g :: s.field, after := false }

def Cutting.fields (s : Cutting) : List (List Glyph) :=
  let last := s.kept.getD s.field
  let ends := (s.spans && s.solid) || ! last.isEmpty
  (if ends then last.reverse :: s.done else s.done).reverse

def cut (ifs : String) (most : Option Nat) (gs : List Glyph) : List (List Glyph) :=
  (gs.foldl (Cutting.take ifs.toList) (start most)).fields

end Fields

end RootedRun.Shell
