import RootedRun.Text.Showable
import RootedRun.Tool.Basic

namespace RootedRun.Tool

inductive Charset
  | ascii
  | utf8
  deriving DecidableEq

namespace Charset

def isUnicode (place : String) : Bool :=
  match place.toList with
  | 'C' :: '.' :: cs =>
    String.ofList ((cs.filter Char.isAlphanum).map Char.toLower) = "utf8"
  | _ => false

def ofEnv (env : List (String × String)) : Charset :=
  let places := ["LC_ALL", "LC_CTYPE", "LANG"].map fun n => (env.lookup n).getD ""
  if (places.find? (· ≠ "")).any isUnicode then .utf8 else .ascii

end Charset

namespace Shown

structure Sign where
  bytes : List Char
  isPrintable : Bool

def isPlain (c : Char) : Bool := ' ' ≤ c && c ≤ '~'

def signs (cs : Charset) (word : List Char) : List Sign :=
  match word with
  | [] => []
  | c :: r =>
    match cs, Text.Octets.front? (c :: r) with
    | .utf8, some (d, bytes) =>
      ⟨bytes, Text.isShowable d⟩ :: signs cs (r.drop (bytes.length - 1))
    | _, _ => ⟨[c], isPlain c⟩ :: signs cs r
termination_by word.length

def isStrong (c : Char) : Bool := "!\"$&()*;<=>[^\x60|?\\".toList.contains c

def isLeading (c : Char) : Bool := c = '#' || c = '~'

def Sign.is (s : Sign) (f : Char → Bool) : Bool := s.bytes.any f

def needsQuotes : List Sign → Bool
  | [] | [⟨['\x7b'], _⟩] | [⟨['\x7d'], _⟩] => true
  | s :: ss => s.is isLeading
    || (s :: ss).any fun s => ! s.isPrintable
      || s.is fun c => isStrong c || c = ' ' || c = ':' || c = '\''

def fitsDouble : List Sign → Bool
  | [] => false
  | s :: ss => (s :: ss).any (·.is (· = '\'')) && ! s.is isStrong && s.isPrintable
    && ss.all fun s => ! s.is isStrong && ! s.is isLeading && s.isPrintable

def octal (n : Nat) : List Char :=
  [n / 64, n / 8 % 8, n % 8].map fun d => Char.ofNat ('0'.toNat + d)

def escape (c : Char) : List Char :=
  match c.toNat with
  | 7 => ['a']
  | 8 => ['b']
  | 9 => ['t']
  | 10 => ['n']
  | 11 => ['v']
  | 12 => ['f']
  | 13 => ['r']
  | n => octal n

def escapes (bytes : List Char) : List Char := bytes.flatMap ('\\' :: escape ·)

def single (escaping : Bool) : List Sign → List Char
  | [] => []
  | s :: ss =>
    if s.bytes = ['\''] then ['\'', '\\', '\'', '\''] ++ single false ss
    else if s.isPrintable then
      (if escaping then ['\'', '\''] else []) ++ s.bytes ++ single false ss
    else (if escaping then [] else ['\'', '$', '\'']) ++ escapes s.bytes ++ single true ss

def quotes : Charset → String × String
  | .ascii => ("'", "'")
  | .utf8 => (Text.Octets.encode "‘", Text.Octets.encode "’")

end Shown

open Shown

def enclosed (cs : Charset) (name : String) : String :=
  let ss := signs cs name.toList
  if fitsDouble ss then "\"" ++ name ++ "\""
  else "'" ++ String.ofList (single false ss) ++ "'"

def shown (cs : Charset) (name : String) : String :=
  if needsQuotes (signs cs name.toList) then enclosed cs name else name

def quoted (cs : Charset) (word : String) : String :=
  let (first, last) := quotes cs
  first ++ String.ofList ((signs cs word.toList).flatMap fun s =>
    if s.bytes = last.toList ∨ s.bytes = ['\\'] then '\\' :: s.bytes
    else if s.isPrintable then s.bytes else escapes s.bytes) ++ last

namespace Call

def charset (c : Call) : Charset := .ofEnv c.env

def enclosed (c : Call) (name : String) : String := Tool.enclosed c.charset name

def shown (c : Call) (name : String) : String := Tool.shown c.charset name

def quoted (c : Call) (word : String) : String := Tool.quoted c.charset word

end Call

end RootedRun.Tool
