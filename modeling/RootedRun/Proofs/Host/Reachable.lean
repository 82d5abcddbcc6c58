import RootedRun.Host.Setup
import RootedRun.Proofs.Host.Delegation
import RootedRun.Proofs.Host.Setup

/-!
Hosts over their lifetime. However a host was made, only its search path can be replaced later, and
only by lists without a bad entry. Main statement: what is known of a host after any run, and that a
refused replacement can be left out of the run without a trace.
-/

namespace RootedRun

/-! ### A host as it is made -/

namespace Host

variable {stat : Stat} {aliases : Aliases} {root : String} {dirs : Option (List String)} {h : Host}

theorem rootOf_eq_some_iff {dir : String} : rootOf root = some dir ↔ root ≠ "" ∧ root = dir := by
  unfold rootOf
  split <;> simp_all

theorem value_ofParts_eq_ok_iff :
    (ofParts stat aliases root dirs).value = .ok h ↔
      Usable stat root ∧ h.aliases = aliases ∧ h.root = rootOf root ∧
        h.searchPath.dirs = dirs.getD SearchPath.standard.dirs := by
  by_cases hroot : Usable stat root
  · rw [ofParts_of_usable hroot, ← SearchPath.ofList_eq_ok_iff]
    cases SearchPath.ofList (dirs.getD SearchPath.standard.dirs) with
    | error e => simp [Except.map]
    | ok p =>
      cases h
      simp [Except.map, hroot, eq_comm]
  · simp [ofParts_of_not_usable hroot, Logged.quiet, hroot]

theorem value_ofSettings_eq_ok_iff {s : Settings} :
    (ofSettings stat s).value = .ok h ↔
      (ofParts stat s.aliases s.rootDir s.searchPath).value = .ok h := by
  cases hp : SearchPath.ofList (s.searchPath.getD SearchPath.standard.dirs) with
  | error e =>
    rw [ofSettings_of_error hp, value_ofParts_eq_ok_iff, ← SearchPath.ofList_eq_ok_iff, hp]
    simp [Logged.quiet]
  | ok p =>
    by_cases hroot : Usable stat s.rootDir
    · rw [ofSettings_of_usable hroot hp, ofParts_of_usable hroot, hp]
      rfl
    · rw [ofSettings_of_not_usable hroot hp, ofParts_of_not_usable hroot]

namespace Source

variable {source : Source} {read : String → Except IoError ByteArray}

theorem given_eq_ok_iff {s : Settings} :
    source.given read = .ok s ↔
      match source with
      | .parts aliases root dirs => s = ⟨aliases, some root, dirs⟩
      | .settings config => s = config
      | .inline text => Settings.ofInline text = .ok s
      | .file path => Settings.load read path = .ok s := by
  cases source with
  | parts aliases root dirs => simp [given, eq_comm]
  | settings config => simp [given, eq_comm]
  | inline text => rfl
  | file path => rfl

theorem value_make_eq_ok_iff :
    (source.make stat read).value = .ok h ↔
      ∃ s, source.given read = .ok s ∧
        (ofParts stat s.aliases s.rootDir s.searchPath).value = .ok h := by
  cases source with
  | parts aliases root dirs => simp [make, given, Settings.rootDir]
  | _ =>
    simp only [make]
    cases given read _ with
    | error e => simp [Logged.quiet]
    | ok s => simp [value_ofSettings_eq_ok_iff]

end Source

end Host

/-! ### One step -/

/-- The list that the search path becomes. -/
def Step.replacement? : Step → Option (List String)
  | .searchPath none => some SearchPath.standard.dirs
  | .searchPath (some dirs) => if ∀ d ∈ dirs, SearchPath.IsEntry d then some dirs else none
  | _ => none

namespace Session

variable {s : Session} {step : Step} {steps : List Step} {e : SetupError}

theorem value_step_eq_refused_iff :
    (s.step step).2.value = .refused e ↔
      ∃ dirs, step = .searchPath (some dirs) ∧ SearchPath.ofList dirs = .error e := by
  cases step with
  | searchPath dirs =>
    cases dirs with
    | none => simp [Session.step, Logged.quiet]
    | some dirs =>
      simp only [Session.step]
      cases hdirs : SearchPath.ofList dirs <;> simp [Logged.quiet, hdirs]
  | _ => simp [Session.step, Logged.map, Logged.quiet, deliver]

theorem step_of_refused (h : (s.step step).2.value = .refused e) :
    s.step step = (s, .quiet (.refused e)) := by
  obtain ⟨dirs, rfl, hdirs⟩ := value_step_eq_refused_iff.1 h
  simp only [Session.step, hdirs]

theorem dirs_step (s : Session) (step : Step) :
    (s.step step).1.host.searchPath.dirs = step.replacement?.getD s.host.searchPath.dirs := by
  cases step with
  | searchPath dirs =>
    cases dirs with
    | none => rfl
    | some dirs =>
      simp only [Session.step, Step.replacement?]
      cases hdirs : SearchPath.ofList dirs with
      | error e =>
        have hbad : ¬ ∀ d ∈ dirs, SearchPath.IsEntry d := fun hgood => by
          obtain ⟨p, hp⟩ := SearchPath.exists_ofList_iff.2 hgood
          cases hdirs.symm.trans hp
        rw [if_neg hbad, Option.getD_none]
      | ok p =>
        rw [if_pos (SearchPath.exists_ofList_iff.1 ⟨p, hdirs⟩), Option.getD_some]
        exact SearchPath.dirs_of_ofList hdirs
  | _ => rfl

theorem host_step (s : Session) (step : Step) :
    (s.step step).1.host = s.host.withSearchPath (s.step step).1.host.searchPath := by
  cases step with
  | searchPath dirs =>
    obtain ⟨p, hp⟩ := s.step_searchPath dirs
    rw [hp]
    rfl
  | _ => rfl

theorem below_step (s : Session) (step : Step) : (s.step step).1.below = s.below := by
  cases step with
  | searchPath dirs =>
    obtain ⟨p, hp⟩ := s.step_searchPath dirs
    rw [hp]
  | _ => rfl

/-! ### A run -/

theorem dirs_run (s : Session) (steps : List Step) :
    (s.run steps).1.host.searchPath.dirs =
      (steps.filterMap Step.replacement?).getLastD s.host.searchPath.dirs := by
  induction steps generalizing s with
  | nil => rfl
  | cons step steps ih =>
    rw [run, ih, dirs_step]
    cases h : step.replacement? with
    | none => rw [List.filterMap_cons_none h, Option.getD_none]
    | some dirs => rw [List.filterMap_cons_some h, Option.getD_some, List.getLastD_cons]

theorem host_run (s : Session) (steps : List Step) :
    (s.run steps).1.host = s.host.withSearchPath (s.run steps).1.host.searchPath := by
  induction steps generalizing s with
  | nil => rfl
  | cons step steps ih =>
    rw [run, ih, host_step]
    rfl

theorem below_run (s : Session) (steps : List Step) : (s.run steps).1.below = s.below := by
  induction steps generalizing s with
  | nil => rfl
  | cons step steps ih => exact (ih _).trans (s.below_step step)

theorem refused_run_iff {k : Nat} :
    (s.run steps).2[k]?.map Logged.value = some (.refused e) ↔
      ∃ dirs, steps[k]? = some (.searchPath (some dirs)) ∧ SearchPath.ofList dirs = .error e := by
  rw [getElem?_answers]
  cases steps[k]? <;> simp [value_step_eq_refused_iff]

/-- A refused step can be left out, and nothing else of the run changes. -/
theorem run_eraseIdx {k : Nat} (h : (s.run steps).2[k]?.map Logged.value = some (.refused e)) :
    s.run (steps.eraseIdx k) = ((s.run steps).1, (s.run steps).2.eraseIdx k) := by
  induction steps generalizing s k with
  | nil => cases h
  | cons step steps ih =>
    cases k with
    | zero =>
      have hstep := step_of_refused (Option.some_inj.1 h)
      simp only [run, hstep, List.eraseIdx_cons_zero]
    | succ k =>
      have hrest := ih (s := (s.step step).1) (k := k) h
      simp only [List.eraseIdx_cons_succ, run, hrest]

/-- The files may change in any way after the host is made, and its root may be gone. Whether a step
is refused depends on that step alone. -/
theorem host_kept {source : Host.Source} {stat : Stat} {read : String → Except IoError ByteArray}
    {host : Host} (hmade : (source.make stat read).value = .ok host) (below : Stack) (later : Stat)
    (steps : List Step) :
    let gives (source : Host.Source) (given : Settings) : Prop := match source with
      | .parts aliases root dirs => given = ⟨aliases, some root, dirs⟩
      | .settings config => given = config
      | .inline text => Settings.ofInline text = .ok given
      | .file path => Settings.load read path = .ok given
    let s := start host below later
    let after := (s.run steps).1
    let answers := (s.run steps).2
    (∃ given, gives source given ∧
      after.host.aliases = given.aliases ∧
      (after.host.aliases.entries.map Prod.fst).Pairwise (fun a b => Text.bytes a < Text.bytes b) ∧
      after.host.root =
        (if given.root.getD "" = "" then none else some (given.root.getD "")) ∧
      (∀ root, after.host.root = some root → root ≠ "" ∧ stat root = .ok .directory) ∧
      after.host.searchPath.dirs = (steps.filterMap Step.replacement?).getLastD
        (given.searchPath.getD SearchPath.standard.dirs)) ∧
    (∀ d ∈ after.host.searchPath.dirs, d.toList.head? = some '/' ∧ ':' ∉ d.toList) ∧
    after.host = { host with searchPath := after.host.searchPath } ∧
    after.below = below ∧
    answers.length = steps.length ∧
    ∀ (k : Nat) (e : SetupError),
      (answers[k]?.map Logged.value = some (.refused e) ↔ ∃ front d back,
        steps[k]? = some (.searchPath (some (front ++ d :: back))) ∧
        (∀ c ∈ front, SearchPath.IsEntry c) ∧ ¬ SearchPath.IsEntry d ∧ e = .badEntry d) ∧
      (answers[k]?.map Logged.value = some (.refused e) →
        s.run (steps.eraseIdx k) = (after, answers.eraseIdx k)) := by
  intro gives s after answers
  obtain ⟨given, hgiven, hparts⟩ := Host.Source.value_make_eq_ok_iff.1 hmade
  obtain ⟨husable, haliases, hroot, hdirs⟩ := Host.value_ofParts_eq_ok_iff.1 hparts
  have hafter : after.host = host.withSearchPath after.host.searchPath := s.host_run steps
  have hmap : after.host.aliases = given.aliases := (congrArg Host.aliases hafter).trans haliases
  have hdir : after.host.root = Host.rootOf given.rootDir := (congrArg Host.root hafter).trans hroot
  refine ⟨⟨given, Host.Source.given_eq_ok_iff.1 hgiven, hmap, List.pairwise_map.2 after.host.aliases.ordered, hdir, ?_, ?_⟩,
    after.host.searchPath.valid, hafter, s.below_run steps, s.length_answers steps,
    fun k e => ⟨refused_run_iff.trans ?_, run_eraseIdx⟩⟩
  · intro root h
    obtain ⟨hne, rfl⟩ := Host.rootOf_eq_some_iff.1 (hdir.symm.trans h)
    exact ⟨hne, husable.resolve_left hne⟩
  · exact hdirs ▸ s.dirs_run steps
  · simp only [SearchPath.ofList_eq_error_iff]
    constructor
    · rintro ⟨_, hk, front, d, back, rfl, h⟩
      exact ⟨front, d, back, hk, h⟩
    · rintro ⟨front, d, back, hk, h⟩
      exact ⟨_, hk, front, d, back, rfl, h⟩

/-- Settings from a file, a root that is gone later, and one replacement that is refused before one
that is not. -/
theorem host_kept_root_gone :
    let stat : Stat := fun path => if path = "/a" then .ok .directory else .error (.os .notFound)
    let read (path : String) : Except IoError ByteArray :=
      if path = "host.toml" then .ok "chroot_dir = '/a'\n[command_map]\nt = 'tool'\nblank = ''\n".toUTF8
      else .error (.os .notFound)
    let host : Host := ⟨.ofList [("t", "tool"), ("blank", "")], some "/a", .standard⟩
    let s := start host [] stat
    let steps : List Step := [.files fun _ => .error (.os .notFound), .prepare ⟨"t", []⟩,
      .searchPath (some ["/opt", "bin", ""]), .searchPath (some ["/opt"]), .prepare ⟨"blank", []⟩]
    ((Host.Source.file "host.toml").make stat read).value = .ok host ∧
    (s.run steps).1.host.searchPath.dirs = ["/opt"] ∧
    (s.run steps).1.host.root = some "/a" ∧
    (s.run steps).2[2]?.map Logged.value = some (.refused (.badEntry "bin")) ∧
    s.run (steps.eraseIdx 2) = ((s.run steps).1, (s.run steps).2.eraseIdx 2) := by
  intro stat read host s steps
  have hmade : ((Host.Source.file "host.toml").make stat read).value = .ok host := by decide +kernel
  obtain ⟨⟨given, -, -, -, -, -, hdirs⟩, -, hhost, -, -, hrefused⟩ := host_kept hmade [] stat steps
  obtain ⟨hiff, herase⟩ := hrefused 2 (.badEntry "bin")
  have hbad := hiff.2 ⟨["/opt"], "bin", [""], rfl, by decide, by decide, rfl⟩
  have hlast : steps.filterMap Step.replacement? = [["/opt"]] := by decide +kernel
  exact ⟨hmade, hdirs.trans (by rw [hlast]; rfl), congrArg Host.root hhost, hbad, herase hbad⟩

end Session

end RootedRun
