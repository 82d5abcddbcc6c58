import RootedRun.Tool.Shown
import RootedRun.Tool.Tail.Plan

namespace RootedRun.Tool.Tail

def titleOf (name : String) : String := if name = "-" then "standard input" else name

def heading (first : Bool) (name : String) : String :=
  (if first then "" else "\n") ++ "==> " ++ titleOf name ++ " <==\n"

inductive Trouble
  | fault (e : Task.Fault)
  | unfit

namespace Trouble

def text : Trouble → String
  | fault e => e.text
  | unfit => ""

def isMissing : Trouble → Bool
  | fault (.os .notFound) => true
  | _ => false

end Trouble

/-- A file that is followed: what is open of it, which file that is, and how long it was at its last
change. `wasThere` tells that it has not been missed so far, `looks` how often there has been
nothing new, and `left` that it is not followed any more. -/
structure Followed where
  name : String
  fd : Option Nat
  kind : Task.Kind
  place : List String
  size : Nat
  time : Nat
  trouble : Option Trouble
  wasThere : Bool
  looks : Nat
  left : Bool

namespace Followed

def closed (p : Plan) (name : String) (trouble : Trouble) : Followed where
  name := name
  fd := none
  kind := .file
  place := []
  size := 0
  time := 0
  trouble := some trouble
  wasThere := ! p.retries
  looks := 0
  left := ! p.retries

def opened (name : String) (fd : Nat) (info : Task.Info) (size : Nat) : Followed where
  name := name
  fd := some fd
  kind := info.kind
  place := info.place
  size := size
  time := info.time
  trouble := none
  wasThere := true
  looks := 0
  left := false

def isLive (p : Plan) (f : Followed) : Bool := f.fd.isSome || (! f.left && p.retries)

end Followed

def isFit (k : Task.Kind) : Bool := k ≠ .directory

def pass (c : Call) (text : String) : Act Unit := do
  if let .error e ← put 1 text then
    c.complain ("write error: " ++ e.text)
    Act.exit (.code 1)

def Followed.renew (c : Call) (p : Plan) (f : Followed) : Act Followed := do
  let title := c.enclosed (titleOf f.name)
  let found ← match ← Act.ask (.open f.name .read) with
    | .error e => pure (.error e)
    | .ok fd => do
      let info ← Act.ask (.lookAt fd)
      pure (info.map (fd, ·))
  match found with
  | .error e =>
    f.fd.forM fun fd => Act.ask (.close fd)
    if p.retries then
      if f.wasThere then c.complain (title ++ " has become inaccessible: " ++ e.text)
    else if (f.trouble.map Trouble.text) ≠ some e.text then
      c.complain (c.shown (titleOf f.name) ++ ": " ++ e.text)
    return { f with fd := none, trouble := some (.fault e), wasThere := ! p.retries }
  | .ok (fd, info) =>
    if ! isFit info.kind then
      let left := ! (p.retries && p.follows = some .name)
      if f.wasThere || (f.trouble.map Trouble.text) ≠ some Trouble.unfit.text then
        c.complain (title ++ " has been replaced with an untailable file"
          ++ (if left then "; giving up on this name" else ""))
      (fd :: f.fd.toList).forM fun fd => Act.ask (.close fd)
      return { f with fd := none, trouble := some .unfit, wasThere := false, left }
    let new := Followed.opened f.name fd info 0
    match f.fd with
    | none =>
      c.complain (title ++ (if f.trouble.all Trouble.isMissing then
        " has appeared;  following new file" else " has become accessible"))
      return new
    | some old =>
      if f.place ≠ info.place then
        c.complain (title ++ " has been replaced;  following new file")
        Act.ask (.close old)
        return new
      Act.ask (.close fd)
      return f

structure Round where
  files : List Followed
  last : Nat
  told : Bool

def tellMore (c : Call) (headed : Bool) (f : Followed) (fd : Nat) : Act (Followed × Bool) := do
  if headed then pass c (heading false f.name)
  let text ← if f.kind = .file then (·.1) <$> getAll fd else (·.toOption.getD "") <$> get fd
  pass c text
  return ({ f with size := f.size + text.utf8ByteSize }, text ≠ "")

def Followed.check (c : Call) (p : Plan) (headed alone : Bool) (f : Followed) (fd : Nat) :
    Act (Followed × Bool × Bool) := do
  match ← Act.ask (.lookAt fd) with
  | .error e =>
    c.complain (c.shown (titleOf f.name) ++ ": " ++ e.text)
    return ({ f with fd := none, trouble := some (.fault e) }, false, false)
  | .ok info =>
    if f.kind = .pipe && ! alone then return (f, false, false)
    let isNew := info.time ≠ f.time || info.size ≠ f.size
    if f.kind = .file && ! isNew then
      let isDue := p.patience ≤ f.looks && p.follows = some .name
      let f ← if isDue then f.renew c p else pure f
      return ({ f with looks := if isDue then 0 else f.looks + 1 }, false, false)
    let f := { f with time := info.time, looks := 0 }
    let f ← if f.kind = .file && info.size < f.size then do
        c.complain (c.shown (titleOf f.name) ++ ": file truncated")
        Act.ask (.rewind fd)
        pure { f with size := 0 }
      else pure f
    let (f, told) ← tellMore c headed f fd
    return (f, true, told)

def Round.from (c : Call) (p : Plan) (headed : Bool) (r : Round) : (n : Nat) → List Followed →
    Act Round
  | _, [] => return r
  | n, f :: fs => do
    let alone := r.files.isEmpty && fs.isEmpty
    let (f, isLast, told) ← match f.left, f.fd with
      | true, _ => pure (f, false, false)
      | false, none => do pure (← f.renew c p, false, false)
      | false, some fd => f.check c p (headed && r.last ≠ n) alone fd
    Round.from c p headed
      ⟨r.files ++ [f], if isLast then n else r.last, r.told || told⟩ (n + 1) fs

def isAlone (p : Plan) : Act Bool :=
  match p.watched with
  | none => return false
  | some pid => return ! (← Act.ask (.kill pid 0))

def checkOutput : Act Unit := do
  if let .ok info ← Act.ask (.lookAt 1) then
    if info.kind = .pipe then discard (Act.write 1 .empty)

def follow (c : Call) (p : Plan) (headed : Bool) (files : List Followed) : Act Unit :=
  Act.repeatFrom (files, files.length - 1, false) fun (files, last, isOver) => do
    let r ← Round.from c p headed ⟨[], last, false⟩ 0 files
    if ! (p.retries && p.follows = some .name) && ! r.files.any (·.isLive p) then
      c.complain "no files remaining"
      return .inr ()
    checkOutput
    if r.told then return .inl (r.files, r.last, isOver)
    if isOver then return .inr ()
    let isOver ← isAlone p
    if ! isOver then Act.sleep p.pause
    return .inl (r.files, r.last, isOver)

end RootedRun.Tool.Tail
