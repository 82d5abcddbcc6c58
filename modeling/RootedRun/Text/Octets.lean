namespace RootedRun.Text.Octets

def ofByte (b : UInt8) : Char := Char.ofNat b.toNat

def toByte (c : Char) : UInt8 := UInt8.ofNat c.toNat

def ofBytes (bs : ByteArray) : String := String.ofList (bs.data.toList.map ofByte)

def toBytes (s : String) : ByteArray := s.toList.foldl (fun bs c => bs.push (toByte c)) .empty

def encode (s : String) : String := ofBytes s.toUTF8

def decode? (s : String) : Option String := String.fromUTF8? (toBytes s)

def sizeFrom (c : Char) : Nat :=
  if c.toNat < 0xc0 then 1 else if c.toNat < 0xe0 then 2 else if c.toNat < 0xf0 then 3 else 4

def front? : List Char → Option (Char × List Char)
  | [] => none
  | c :: cs =>
    let bytes := (c :: cs).take (sizeFrom c)
    match (decode? (String.ofList bytes)).map String.toList with
    | some [d] => some (d, bytes)
    | _ => none

/-- In names, characters from here on stand for bytes that are no part of a character. -/
def firstStray : Nat := 0x10dc00

def isStray (c : Char) : Bool := firstStray ≤ c.toNat && c.toNat < firstStray + 256

def names (cs : List Char) : List Char :=
  match cs with
  | [] => []
  | c :: r =>
    match front? (c :: r) with
    | some (d, bytes) =>
      if isStray d then stray c :: names r else d :: names (r.drop (bytes.length - 1))
    | none => stray c :: names r
termination_by cs.length
where stray (c : Char) : Char := Char.ofNat (firstStray + c.toNat)

def decode (s : String) : String :=
  match decode? s with
  | some t => if t.toList.any isStray then String.ofList (names s.toList) else t
  | none => String.ofList (names s.toList)

def ofName (name : String) : String :=
  if name.toList.any isStray then
    String.join (name.toList.map fun c =>
      if isStray c then (Char.ofNat (c.toNat - firstStray)).toString else encode c.toString)
  else encode name

end RootedRun.Text.Octets
