import RootedRun.Job.Request
import RootedRun.Proofs.Host.Placement
import RootedRun.Proofs.Host.Stacking

namespace RootedRun

namespace Host

variable {h : Host} {stat : Stat}

theorem words_prepare_of_pinned {i : Invocation}
    (hp : (h.place (h.aliases.meaning i.program)).run stat = .pinned) :
    ((h.prepare i).run stat).value.words =
      (h.root.toList.flatMap fun root => [chrootProgram, root]) ++
        envHelper :: "-i" :: ("PATH=" ++ h.searchPath.joined) ::
          h.aliases.meaning i.program :: i.args := by
  rw [value_prepare, words_confine, value_rename, value_qualify, hp]
  rfl

end Host

theorem Launch.executable_of_qualified {α : Type} {l : Launch} (hq : Qualified l.program)
    (check : String → Except OsError α) : l.executable check = check l.program := if_pos hq

namespace Request

theorem invocation_foldl_apply (r : Request) (changes : List Change) :
    (changes.foldl apply r).invocation = r.invocation := by
  induction changes generalizing r with
  | nil => rfl
  | cons c changes ih => rw [List.foldl_cons, ih, apply_invocation]

theorem submit_behind_processes (h : Host) (stat : Stat) (i : Invocation) (token : Option Token) :
    (((Executor.processes.behind h).submit i token ()).run stat).value.2 =
      .ofCall ⟨((h.prepare i).run stat).value, token⟩ := by
  rw [Executor.run_submit_behind]
  cases token <;> rfl

/-- A caller's environment is what is inherited and what is set on the request, perhaps a `PATH` in
either. -/
theorem start_independent {α : Type} (h : Host) (stat : Stat) (name : String) (args : List String)
    (token : Option Token) (check : String → Except OsError α) (inherited inherited' : Entries)
    (vars vars' : List (String × String)) :
    let n := h.aliases.meaning name
    let missing (path : String) := ∃ e, stat path = .error e ∧ e.kind = .notFound
    let lost := h.root = none ∧ '/' ∉ n.toList ∧ missing "/usr/bin/env" ∧
      ∀ dir ∈ h.searchPath.dirs, ∃ e, stat (SearchPath.trimSlashes dir ++ "/" ++ n) = .error e
    let made := (((Executor.processes.behind h).submit ⟨name, args⟩ token ()).run stat).value.2
    let l := ((vars.map fun v => Change.var v.1 v.2).foldl apply made).launch inherited
    let l' := ((vars'.map fun v => Change.var v.1 v.2).foldl apply made).launch inherited'
    l.program = l'.program ∧ l.args = l'.args ∧
    ((lost ∧ '/' ∉ l.program.toList ∧ l.program = n ∧ l.args = args) ∨
      (¬ lost ∧ '/' ∈ l.program.toList ∧
        l.executable check = check l.program ∧ l'.executable check = check l.program)) ∧
    ('/' ∈ n.toList ∨ missing (h.inRoot "/usr/bin/env") ∨
      l.program :: l.args = (h.root.toList.flatMap fun root => ["/usr/sbin/chroot", root]) ++
        "/usr/bin/env" :: "-i" :: ("PATH=" ++ h.searchPath.joined) :: n :: args) := by
  intro n missing lost made l l'
  have hmade (changes : List Change) :
      (changes.foldl apply made).invocation = ((h.prepare ⟨name, args⟩).run stat).value := by
    rw [invocation_foldl_apply]
    exact congrArg Request.invocation (submit_behind_processes h stat ⟨name, args⟩ token)
  have hprogram : l.program = ((h.prepare ⟨name, args⟩).run stat).value.program :=
    congrArg Invocation.program (hmade _)
  have hargs : l.args = ((h.prepare ⟨name, args⟩).run stat).value.args :=
    congrArg Invocation.args (hmade _)
  have hsame : l.program = l'.program := hprogram.trans (congrArg Invocation.program (hmade _)).symm
  have hlost : ¬ Qualified l.program ↔ lost := by
    rw [hprogram, Host.not_qualified_value_prepare]
    -- without a root the host looks at a path itself
    refine and_congr_right fun hroot => ?_
    simp only [Host.run_place_eq_unresolved, Host.inRoot, hroot]
    rfl
  refine ⟨hsame, hargs.trans (congrArg Invocation.args (hmade _)).symm, ?_, ?_⟩
  · by_cases hq : Qualified l.program
    · refine .inr ⟨fun h => hlost.2 h hq, hq, Launch.executable_of_qualified hq check, ?_⟩
      rw [hsame] at hq ⊢
      exact Launch.executable_of_qualified hq check
    · obtain ⟨hroot, hp⟩ := Host.not_qualified_value_prepare.1 (hprogram ▸ hq)
      have hvalue := Host.value_prepare_of_unresolved hroot hp
      exact .inl ⟨hlost.1 hq, hq, hprogram.trans (congrArg Invocation.program hvalue),
        hargs.trans (congrArg Invocation.args hvalue)⟩
  · by_cases hq : '/' ∈ n.toList
    · exact .inl hq
    · by_cases ha : missing (h.inRoot "/usr/bin/env")
      · exact .inr (.inl ha)
      · rw [hprogram, hargs]
        exact .inr (.inr (Host.words_prepare_of_pinned (Host.run_place_eq_pinned.2 ⟨hq, ha⟩)))

end Request

end RootedRun
