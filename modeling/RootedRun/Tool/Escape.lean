import RootedRun.Tool.Numeral

namespace RootedRun.Tool.Escape

def ofLetter? : Char → Option Char
  | 'a' => some '\x07'
  | 'b' => some '\x08'
  | 'e' => some '\x1b'
  | 'f' => some '\x0c'
  | 'n' => some '\n'
  | 'r' => some '\r'
  | 't' => some '\t'
  | 'v' => some '\x0b'
  | '\\' => some '\\'
  | _ => none

def ofDigits (base : Nat) (ds : List Char) : Char := Char.ofNat (Numeral.value base ds % 256)

def read (cs : List Char) : Char × List Char :=
  match cs with
  | [] => ('\\', [])
  | c :: r =>
    match ofLetter? c with
    | some d => (d, r)
    | none =>
      let ds := (cs.take 3).takeWhile Numeral.isOctal
      if ds.isEmpty then ('\\', cs) else (ofDigits 8 ds, cs.drop ds.length)

def readInWord (cs : List Char) : Char × List Char :=
  match cs with
  | '0' :: d :: r => if Numeral.isOctal d then read (d :: r) else read cs
  | cs => read cs

def unescape (cs : List Char) : String × Bool := go (cs.length + 1) "" cs
where
  go : (fuel : Nat) → String → List Char → String × Bool
    | 0, s, _ => (s, false)
    | _ + 1, s, [] => (s, false)
    | _ + 1, s, '\\' :: 'c' :: _ => (s, true)
    | fuel + 1, s, '\\' :: r =>
      let (c, r) := readInWord r
      go fuel (s.push c) r
    | fuel + 1, s, c :: r => go fuel (s.push c) r

end Escape

def echoed (args : List String) : String :=
  let (newline, words) := match args with
    | "-n" :: r => (false, r)
    | r => (true, r)
  let rec go : List String → String → String × Bool
    | [], s => (s, false)
    | w :: ws, s =>
      let (t, stop) := Escape.unescape w.toList
      if stop then (s ++ t, true)
      else if ws.isEmpty then (s ++ t, false) else go ws (s ++ t ++ " ")
  let (s, stop) := go words ""
  if newline ∧ ¬ stop then s ++ "\n" else s

end RootedRun.Tool
