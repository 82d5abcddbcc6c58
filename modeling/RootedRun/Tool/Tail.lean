import RootedRun.Tool.Tail.Follow

namespace RootedRun.Tool.Tail

def Amount.passOver (a : Amount) (mark : Char) : Nat → List Char → Nat × List Char
  | 0, cs => (0, cs)
  | n, [] => (n, [])
  | n + 1, c :: cs => passOver a mark (if a.ofLines ∧ c ≠ mark then n + 1 else n) cs

def countLines (mark : Char) (cs : List Char) : Nat :=
  cs.count mark + match cs.getLast? with
    | some c => if c = mark then 0 else 1
    | none => 0

def Amount.front (a : Amount) : Nat := a.number - 1

def Amount.keep (a : Amount) (mark : Char) (text : String) : String :=
  let cs := text.toList
  let length := if a.ofLines then countLines mark cs else cs.length
  String.ofList (a.passOver mark (length - a.number) cs).2

def Plan.passes (p : Plan) : Bool :=
  ! p.amount.ofLines || (p.amount.fromStart && p.amount.number ≤ 1)

def refuseWay (c : Call) (kind way : String) : Act Nat :=
  c.refuse (kind ++ " argument " ++ c.quoted way ++ " for " ++ c.quoted "--follow"
    ++ "\nValid arguments are:"
    ++ String.join (Following.all.map fun f => "\n  - " ++ c.quoted f.word)) 1

def refuse (c : Call) : Fault → Act Nat
  | .misused p => c.turnDown p 1
  | .misnumbered what word m => do
    c.complain ("invalid " ++ what ++ ": " ++ c.quoted word ++ m.text)
    return 1
  | .misplaced digit => do
    c.complain ("option used in invalid context -- " ++ digit.toString)
    return 1
  | .unknownWay way => refuseWay c "invalid" way
  | .ambiguousWay way => refuseWay c "ambiguous" way

/-- How far the work is: the status so far, whether nothing has been written yet, the files that are
to be followed, and why nothing can be written, with how much has not been since. -/
structure Progress where
  status : Nat
  isFirst : Bool
  files : List Followed
  fault : Option (Task.Fault × Nat)

def blockSize : Nat := 4096

def Progress.failed (s : Progress) : Progress := { s with status := 1 }

def write (c : Call) (s : Progress) (text : String) : Act Progress := do
  let broken (e : Task.Fault) (unwritten : Nat) (isFound : Bool) : Act Progress := do
    if isFound then
      c.complain ("error writing 'standard output': " ++ e.text)
      Act.exit (.code 1)
    return { s with fault := some (e, unwritten) }
  match s.fault with
  | some (e, unwritten) =>
    -- a fault is found out as soon as there is enough to be written
    let unwritten := unwritten + text.length
    broken e unwritten (blockSize < unwritten)
  | none =>
    match ← put 1 text with
    | .ok () => return s
    | .error e => broken e text.length (blockSize ≤ text.length)

def unread (c : Call) (p : Plan) (title : String) (s : Progress) (e : Task.Fault) :
    Act (Progress × Bool) := do
  c.complain ("error reading " ++ title ++ ": " ++ e.text)
  if p.passes then Act.exit (.code 1)
  return (s.failed, false)

def passOn (c : Call) (p : Plan) (title : String) (s : Progress) (fd : Nat) :
    Act (Progress × Bool) :=
  Act.repeatFrom (p.amount.front, "", s) fun (front, held, s) => do
    match ← get fd with
    | .error e => return .inr (← unread c p title (← write c s held) e)
    | .ok "" => return .inr (← write c s held, true)
    | .ok text =>
      let (front, cs) := p.amount.passOver p.mark front text.toList
      let cs := held.toList ++ cs
      let whole := cs.length / blockSize * blockSize
      let s ← write c s (String.ofList (cs.take whole))
      return .inl (front, String.ofList (cs.drop whole), s)

def writeEnd (c : Call) (p : Plan) (title : String) (s : Progress) (fd : Nat) :
    Act (Progress × Bool) := do
  match ← getAll fd with
  | (_, some e) => unread c p title s e
  | (text, none) => return (← write c s (p.amount.keep p.mark text), true)

def followed (c : Call) (p : Plan) (isRead : Bool) (name : String) (fd : Nat) :
    Act (Followed × Bool) := do
  let closed (trouble : Trouble) : Act (Followed × Bool) := do
    if name ≠ "-" then Act.ask (.close fd)
    return (.closed p name trouble, false)
  match ← Act.ask (.lookAt fd) with
  | .error e =>
    c.complain ("error reading " ++ c.enclosed (titleOf name) ++ ": " ++ e.text)
    closed (.fault e)
  | .ok info =>
    if ! isFit info.kind then
      c.complain (c.shown (titleOf name) ++ ": cannot follow end of this type of file"
        ++ (if p.retries then "" else "; giving up on this name"))
      return ← closed .unfit
    if ! isRead then return ← closed .unfit
    let passed := if p.amount.fromStart ∧ ¬ p.amount.ofLines then p.amount.front else 0
    return (.opened name fd info (max info.size passed), true)

def tell (c : Call) (p : Plan) (headed : Bool) (s : Progress) (name : String) (fd : Nat) :
    Act (Progress × Bool) := do
  let title := c.enclosed (titleOf name)
  let s ← if headed then write c s (heading s.isFirst name) else pure s
  let s := { s with isFirst := false }
  if let .error e ← Act.ask (.lookAt fd) then
    c.complain ("cannot fstat " ++ title ++ ": " ++ e.text)
    return (s.failed, false)
  (if p.amount.fromStart then passOn else writeEnd) c p title s fd

def one (c : Call) (p : Plan) (headed : Bool) (s : Progress) (name : String) : Act Progress := do
  match ← if name = "-" then pure (.ok 0) else Act.ask (.open name .read) with
  | .error e =>
    c.complain ("cannot open " ++ c.enclosed name ++ " for reading: " ++ e.text)
    return { s with status := 1, files := s.files ++ [.closed p name (.fault e)] }
  | .ok fd =>
    let (s, isRead) ← tell c p headed s name fd
    if p.follows.isNone then
      if name ≠ "-" then Act.ask (.close fd)
      return s
    let (f, isFollowed) ← followed c p isRead name fd
    return { s with files := s.files ++ [f], status := if isFollowed then s.status else 1 }

def finish (c : Call) (s : Progress) (names : List String) : Act Nat := do
  let isClosed ← match names.contains "-", ← Act.ask (.lookAt 0) with
    | true, .error e => do
      c.complain ("-: " ++ e.text)
      pure true
    | _, _ => pure false
  s.fault.forM fun (e, _) => c.complain ("write error: " ++ e.text)
  return if s.fault.isSome ∨ isClosed then 1 else s.status

def leave (f : Followed) : Followed :=
  if f.name = "-" ∧ f.fd.isSome ∧ f.kind = .pipe then { f with fd := none, left := true } else f

def isLeft (f : Followed) : Bool := f.name = "-" && f.fd.isNone && f.kind = .pipe

end Tail

def tail : Program := fun c =>
  match Tail.read c with
  | .error f => Tail.refuse c f
  | .ok (p, names) => do
    p.warnings.forM fun w => c.complain ("warning: " ++ w)
    if names.contains "-" ∧ p.follows = some .name then
      c.complain ("cannot follow " ++ c.enclosed "-" ++ " by name")
      return 1
    if p.isIdle then return 0
    let headed := p.headers.getD (names.length > 1)
    let s ← names.foldlM (Tail.one c p headed) ⟨0, true, [], none⟩
    let files := s.files.map Tail.leave
    if p.follows.isSome ∧ s.fault.isNone ∧ ! files.all Tail.isLeft then Tail.follow c p headed files
    Tail.finish c s names

end RootedRun.Tool
