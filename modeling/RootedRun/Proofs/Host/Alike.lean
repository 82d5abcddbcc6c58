import Mathlib.Data.List.Forall2
import RootedRun.Proofs.Host.Delegation
import RootedRun.Proofs.Host.Setup

/-!
Hosts that differ only in aliases which resolve every name alike, as they do where they differ in
blank entries. Main statement: no step of a run can tell stacks of such hosts apart.
-/

namespace RootedRun

/-! ### Aliases -/

namespace Aliases

variable {m m' : Aliases} {name target : String}

def applied (m : Aliases) : Entries := m.entries.filter (·.2 ≠ "")

theorem ordered_applied (m : Aliases) : m.applied.Ordered := m.ordered.filter _

theorem resolve_eq_some_iff : m.resolve name = some target ↔ (name, target) ∈ m.applied := by
  simp [resolve, applied, Option.filter_eq_some_iff, get?_eq_some_iff]

theorem resolve_congr_iff : (∀ name, m.resolve name = m'.resolve name) ↔ m.applied = m'.applied := by
  constructor
  · intro h
    refine m.ordered_applied.ext m'.ordered_applied fun (name, target) => ?_
    rw [← resolve_eq_some_iff, ← resolve_eq_some_iff, h name]
  · intro h name
    refine Option.ext fun target => ?_
    rw [resolve_eq_some_iff, resolve_eq_some_iff, h]

end Aliases

/-! ### Hosts -/

structure Host.Alike (g h : Host) : Prop where
  root : g.root = h.root
  searchPath : g.searchPath = h.searchPath
  resolve : ∀ name, g.aliases.resolve name = h.aliases.resolve name

namespace Host.Alike

variable {g h : Host} (hgh : g.Alike h)

include hgh

theorem rename_eq (i : Invocation) : g.rename i = h.rename i := by
  simp only [rename, hgh.resolve]

theorem inRoot_eq (path : String) : g.inRoot path = h.inRoot path := by
  simp only [inRoot, hgh.root]

theorem search_eq (cs : List String) : g.search cs = h.search cs := by
  induction cs with
  | nil => rfl
  | cons c cs ih => rw [search, search, hgh.inRoot_eq, ih]

theorem place_eq (name : String) : g.place name = h.place name := by
  simp only [place, hgh.inRoot_eq, hgh.search_eq, hgh.searchPath]

theorem settle_eq (i : Invocation) (p : Placement) : g.settle i p = h.settle i p := by
  cases p <;> simp only [settle, hgh.searchPath]

theorem qualify_eq (i : Invocation) : g.qualify i = h.qualify i := by
  simp only [qualify, hgh.place_eq, hgh.settle_eq]

theorem confine_eq (i : Invocation) : g.confine i = h.confine i := by
  simp only [confine, hgh.root]

theorem prepare_eq (i : Invocation) : g.prepare i = h.prepare i := by
  have hconfine : g.confine = h.confine := funext hgh.confine_eq
  simp only [prepare, hgh.rename_eq, hgh.qualify_eq, hconfine]

theorem withSearchPath (p : SearchPath) : (g.withSearchPath p).Alike (h.withSearchPath p) :=
  ⟨hgh.root, rfl, hgh.resolve⟩

theorem behind_eq {σ α : Type} (e : Executor σ α) : e.behind g = e.behind h := by
  simp only [Executor.behind, hgh.prepare_eq]

end Host.Alike

/-! ### Setting up -/

def Event.recount (n : Nat) : Event → Event
  | .configured root _ => .configured root n
  | e => e

namespace Host

def withAliases (h : Host) (m : Aliases) : Host := { h with aliases := m }

theorem ofParts_withAliases (stat : Stat) (m m' : Aliases) (root : String)
    (dirs : Option (List String)) :
    ofParts stat m' root dirs =
      ⟨(ofParts stat m root dirs).events.map (Event.recount m'.size),
        (ofParts stat m root dirs).value.map (withAliases · m')⟩ := by
  by_cases h : Usable stat root
  · rw [ofParts_of_usable h, ofParts_of_usable h]
    cases SearchPath.ofList (dirs.getD SearchPath.standard.dirs) <;> rfl
  · rw [ofParts_of_not_usable h, ofParts_of_not_usable h]
    rfl

theorem ofSettings_withAliases (stat : Stat) (s : Settings) (m : Aliases) :
    ofSettings stat { s with aliases := m } =
      ⟨(ofSettings stat s).events.map (Event.recount m.size),
        (ofSettings stat s).value.map (withAliases · m)⟩ := by
  cases hp : SearchPath.ofList (s.searchPath.getD SearchPath.standard.dirs) with
  | error e =>
    rw [ofSettings_of_error (s := s) hp, ofSettings_of_error (s := { s with aliases := m }) hp]
    rfl
  | ok p =>
    by_cases h : Usable stat s.rootDir
    · rw [ofSettings_of_usable (s := s) h hp,
        ofSettings_of_usable (s := { s with aliases := m }) h hp]
      rfl
    · rw [ofSettings_of_not_usable (s := s) h hp,
        ofSettings_of_not_usable (s := { s with aliases := m }) h hp]
      rfl

end Host

/-! ### Stacks -/

abbrev Stack.Alike : Stack → Stack → Prop := List.Forall₂ Host.Alike

namespace Stack.Alike

variable {a b : Stack}

theorem prepare_eq (h : Stack.Alike a b) (i : Invocation) :
    Stack.prepare a i = Stack.prepare b i := by
  induction h generalizing i with
  | nil => rfl
  | cons hgh _ ih => simp only [Stack.prepare, hgh.prepare_eq, ih]

theorem executor_eq (h : Stack.Alike a b) {σ α : Type} (e : Executor σ α) :
    e.below a = e.below b := by
  induction h with
  | nil => rfl
  | @cons g h a b hgh _ ih =>
    calc
      (e.below a).behind g = (e.below b).behind g := congrArg (Executor.behind · g) ih
      _ = (e.below b).behind h := hgh.behind_eq _

end Stack.Alike

/-! ### Sessions -/

/-- The answer without what only says which aliases a host has. -/
def Answer.withoutAliases : Answer → Answer
  | .host h => .host (h.withAliases .empty)
  | a => a

namespace Session

structure Alike (s t : Session) : Prop where
  stack : Stack.Alike (s.host :: s.below) (t.host :: t.below)
  stat : s.stat = t.stat
  calls : s.calls = t.calls
  cancelled : s.cancelled = t.cancelled

variable {s t : Session}

namespace Alike

theorem host (h : s.Alike t) : s.host.Alike t.host := (List.forall₂_cons.1 h.stack).1

theorem below (h : s.Alike t) : Stack.Alike s.below t.below := (List.forall₂_cons.1 h.stack).2

theorem withSearchPath (h : s.Alike t) (p : SearchPath) :
    Session.Alike { s with host := s.host.withSearchPath p }
      { t with host := t.host.withSearchPath p } :=
  ⟨.cons (h.host.withSearchPath p) h.below, h.stat, h.calls, h.cancelled⟩

theorem answer_deliver (h : s.Alike t) {a b : Stack} (hab : a.Alike b) (i : Invocation)
    (token : Option Token) : (s.deliver a i token).2 = (t.deliver b i token).2 := by
  simp only [deliver, hab.prepare_eq, h.stat]

theorem deliver (h : s.Alike t) {a b : Stack} (hab : a.Alike b) (i : Invocation)
    (token : Option Token) : (s.deliver a i token).1.Alike (t.deliver b i token).1 := by
  have hcalls : (s.deliver a i token).1.calls = (t.deliver b i token).1.calls := by
    simp only [Session.deliver, hab.prepare_eq, h.stat, h.calls]
  exact ⟨h.stack, h.stat, hcalls, h.cancelled⟩

theorem step (h : s.Alike t) (step : Step) : (s.step step).1.Alike (t.step step).1 := by
  cases step with
  | command i token => exact h.deliver h.stack i token
  | inner i => exact h.deliver h.below i none
  | searchPath dirs =>
    cases dirs with
    | none => exact h.withSearchPath .standard
    | some dirs =>
      simp only [Session.step]
      cases SearchPath.ofList dirs with
      | error e => exact h
      | ok p => exact h.withSearchPath p
  | files stat => exact ⟨h.stack, rfl, h.calls, h.cancelled⟩
  | cancel token => exact ⟨h.stack, h.stat, h.calls, congrArg (·.add token) h.cancelled⟩
  | _ => exact h

theorem answer_eq (h : s.Alike t) {step : Step} (hstep : ∀ dirs, step ≠ .searchPath dirs) :
    (s.step step).2 = (t.step step).2 := by
  cases step with
  | command i token => exact h.answer_deliver h.stack i token
  | inner i => exact h.answer_deliver h.below i none
  | searchPath dirs => exact absurd rfl (hstep dirs)
  | rename i => simp only [Session.step, h.host.rename_eq]
  | qualify i => simp only [Session.step, h.host.qualify_eq, h.stat]
  | confine i => simp only [Session.step, h.host.confine_eq]
  | prepare i => simp only [Session.step, h.host.prepare_eq, h.stat]
  | _ => rfl

theorem answer_withoutAliases (h : s.Alike t) (step : Step) :
    (s.step step).2.map Answer.withoutAliases = (t.step step).2.map Answer.withoutAliases := by
  cases step with
  | searchPath dirs =>
    -- both hosts are shown with the search path of the step and with their own aliases
    have hshown (p : SearchPath) : Answer.withoutAliases (.host (s.host.withSearchPath p)) =
        Answer.withoutAliases (.host (t.host.withSearchPath p)) := by
      simp only [Answer.withoutAliases, Host.withAliases, Host.withSearchPath, h.host.root]
    cases dirs with
    | none => exact congrArg Logged.quiet (hshown .standard)
    | some dirs =>
      simp only [Session.step]
      cases SearchPath.ofList dirs with
      | error e => rfl
      | ok p => exact congrArg Logged.quiet (hshown p)
  | _ => exact congrArg (Logged.map Answer.withoutAliases) (h.answer_eq (by simp))

theorem run (h : s.Alike t) (steps : List Step) : (s.run steps).1.Alike (t.run steps).1 := by
  induction steps generalizing s t with
  | nil => exact h
  | cons step steps ih => exact ih (h.step step)

theorem answers_withoutAliases (h : s.Alike t) (steps : List Step) :
    (s.run steps).2.map (Logged.map Answer.withoutAliases) =
      (t.run steps).2.map (Logged.map Answer.withoutAliases) := by
  induction steps generalizing s t with
  | nil => rfl
  | cons step steps ih =>
    simp only [Session.run, List.map_cons, h.answer_withoutAliases step, ih (h.step step)]

theorem getElem?_answers_eq (h : s.Alike t) {steps : List Step} {k : Nat}
    (hk : ∀ dirs, steps[k]? ≠ some (.searchPath dirs)) :
    (s.run steps).2[k]? = (t.run steps).2[k]? := by
  rw [getElem?_answers, getElem?_answers]
  cases hstep : steps[k]? with
  | none => rfl
  | some step =>
    have hne (dirs) : step ≠ .searchPath dirs := fun heq => hk dirs (heq ▸ hstep)
    exact congrArg some ((h.run (steps.take k)).answer_eq hne)

end Alike

/-- The stacks may differ in the aliases of each host, as long as those resolve every name alike;
the last part says that they do where they have the same entries with a target that is not blank,
and only there. With other aliases a host is set up as before, and only the number that is told of
it may change. -/
theorem blank_entries_unseen (s : Session) {host : Host} {below : Stack}
    (h : List.Forall₂ Host.Alike (s.host :: s.below) (host :: below)) (steps : List Step) :
    let t : Session := { s with host := host, below := below }
    let after := (s.run steps).1
    let answers := (s.run steps).2
    let after' := (t.run steps).1
    let answers' := (t.run steps).2
    (after'.calls = after.calls ∧ after'.cancelled = after.cancelled ∧
      List.Forall₂ Host.Alike (after.host :: after.below) (after'.host :: after'.below)) ∧
    (∀ k : Nat, (∀ dirs, steps[k]? ≠ some (.searchPath dirs)) → answers'[k]? = answers[k]?) ∧
    answers'.map (Logged.map Answer.withoutAliases) =
      answers.map (Logged.map Answer.withoutAliases) ∧
    (∀ i, Stack.prepare (host :: below) i = Stack.prepare (s.host :: s.below) i) ∧
    (∀ {σ α : Type} (e : Executor σ α), e.below (host :: below) = e.below (s.host :: s.below)) ∧
    (∀ (stat : Stat) (given : Settings) (m : Aliases) (root : String) (dirs : Option (List String)),
      Host.ofParts stat m root dirs =
        ⟨(Host.ofParts stat given.aliases root dirs).events.map (Event.recount m.size),
          (Host.ofParts stat given.aliases root dirs).value.map (Host.withAliases · m)⟩ ∧
      Host.ofSettings stat { given with aliases := m } =
        ⟨(Host.ofSettings stat given).events.map (Event.recount m.size),
          (Host.ofSettings stat given).value.map (Host.withAliases · m)⟩) ∧
    ∀ m m' : Aliases, (∀ name, m.resolve name = m'.resolve name) ↔
      m.entries.filter (·.2 ≠ "") = m'.entries.filter (·.2 ≠ "") := by
  intro t after answers after' answers'
  have hst : s.Alike t := ⟨h, rfl, rfl, rfl⟩
  have hafter := hst.run steps
  exact ⟨⟨hafter.calls.symm, hafter.cancelled.symm, hafter.stack⟩,
    fun k hk => (hst.getElem?_answers_eq hk).symm, (hst.answers_withoutAliases steps).symm,
    fun i => (Stack.Alike.prepare_eq h i).symm, fun e => (Stack.Alike.executor_eq h e).symm,
    fun stat given m root dirs => ⟨Host.ofParts_withAliases stat given.aliases m root dirs,
      Host.ofSettings_withAliases stat given m⟩, fun m m' => Aliases.resolve_congr_iff⟩

/-- A blank entry under another name in front, and one more below, each under a name that is used. -/
theorem blank_entries_unseen_two_deep :
    let stat : Stat := fun path => if path = "/a/bin/x" then .ok .other else .error (.os .notFound)
    let inner : Host := ⟨.empty, none, .standard⟩
    let inner' : Host := ⟨.ofList [("/usr/sbin/chroot", "")], none, .standard⟩
    let host : Host := ⟨.ofList [("t", "x"), ("y", "")], some "/a", .standard⟩
    let host' : Host := ⟨.ofList [("t", "x"), ("x", "")], some "/a", .standard⟩
    let s := start host [inner] stat
    let s' := start host' [inner'] stat
    let steps : List Step := [.rename ⟨"x", []⟩, .command ⟨"t", ["-v"]⟩ (some ⟨0⟩), .cancel ⟨0⟩,
      .searchPath (some ["/opt"]), .command ⟨"y", []⟩ none]
    host ≠ host' ∧ inner ≠ inner' ∧
    List.Forall₂ Host.Alike [host, inner] [host', inner'] ∧
    (s'.run steps).2[0]? = (s.run steps).2[0]? ∧
    (s'.run steps).1.calls =
      [⟨⟨"/usr/sbin/chroot", ["/a", "/bin/x", "-v"]⟩, some ⟨0⟩⟩,
        ⟨⟨"/usr/sbin/chroot", ["/a", "y"]⟩, none⟩] := by
  intro stat inner inner' host host' s s' steps
  have halike : List.Forall₂ Host.Alike [host, inner] [host', inner'] :=
    .cons ⟨rfl, rfl, Aliases.resolve_congr_iff.2 (by decide +kernel)⟩
      (.cons ⟨rfl, rfl, Aliases.resolve_congr_iff.2 (by decide +kernel)⟩ .nil)
  obtain ⟨⟨hcalls, -, -⟩, hanswers, -⟩ := blank_entries_unseen s halike steps
  exact ⟨by decide +kernel, by decide +kernel, halike, hanswers 0 (fun dirs h => by cases h),
    hcalls.trans (by decide +kernel)⟩

end Session

end RootedRun
