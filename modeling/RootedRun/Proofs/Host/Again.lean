import RootedRun.Proofs.Host.Log
import RootedRun.Proofs.Host.Looks
import RootedRun.Proofs.Host.Stacking

namespace RootedRun

theorem Aliases.resolve_eq_none_iff {m : Aliases} {name : String} :
    m.resolve name = none ↔ ∀ target, m.get? name = some target → target = "" := by
  simp [resolve, Option.filter_eq_none_iff]

namespace Host

variable {h : Host} {stat : Stat}

theorem value_confine_inj {i j : Invocation} :
    (h.confine i).value = (h.confine j).value ↔ i = j := by
  rw [value_confine, value_confine]
  cases h.root with
  | none => rfl
  | some root =>
    cases i
    cases j
    simp [Invocation.words]

theorem settle_eq_iff {name program : String} {args : List String} {p : Placement} :
    h.settle ⟨name, args⟩ p = ⟨program, args⟩ ↔
      (p = .explicit ∨ p = .unresolved) ∧ name = program ∨ p = .found program := by
  cases p with
  | pinned =>
    have hlength : "-i" :: ("PATH=" ++ h.searchPath.joined) :: name :: args ≠ args := fun heq => by
      have := congrArg List.length heq
      simp only [List.length_cons] at this
      omega
    simp [settle, hlength]
  | _ => simp [settle]

/-! ### The program of a prepared command -/

theorem meaning_of_not_qualified {i : Invocation}
    (hq : ¬ Qualified ((h.prepare i).run stat).value.program) :
    h.aliases.meaning i.program = ((h.prepare i).run stat).value.program := by
  obtain ⟨hroot, hp⟩ := not_qualified_value_prepare.1 hq
  rw [value_prepare_of_unresolved hroot hp]

theorem run_place_prepared (i : Invocation) :
    (h.place ((h.prepare i).run stat).value.program).run stat =
      if Qualified ((h.prepare i).run stat).value.program then .explicit else .unresolved := by
  split
  · next hq => exact run_place_eq_explicit.2 hq
  · next hq =>
    rw [← meaning_of_not_qualified hq]
    exact (not_qualified_value_prepare.1 hq).2

theorem value_prepare_prepared (i : Invocation) :
    let first := ((h.prepare i).run stat).value
    let n := h.aliases.meaning first.program
    ((h.prepare first).run stat).value = (h.confine first).value ↔
      n = first.program ∨ (h.place n).run stat = .found first.program := by
  intro first n
  have hsettle : ((h.prepare first).run stat).value = (h.confine first).value ↔
      ((h.place n).run stat = .explicit ∨ (h.place n).run stat = .unresolved) ∧ n = first.program ∨
        (h.place n).run stat = .found first.program := by
    rw [value_prepare, value_rename, value_qualify, value_confine_inj, settle_eq_iff]
  rw [hsettle]
  refine or_congr_left (and_iff_right_of_imp fun hn => ?_)
  rw [hn, run_place_prepared]
  split
  · exact .inl rfl
  · exact .inr rfl

theorem run_prepare_of_resolve {i : Invocation} (hr : h.aliases.resolve i.program = none) :
    (h.prepare i).run stat = ((h.qualify i).run stat).bind h.confine := by
  rw [prepare, rename_of_not_resolve hr, Probe.run_map]
  rfl

section

variable {i : Invocation}
  (hr : h.aliases.resolve ((h.prepare i).run stat).value.program = none)

include hr

theorem run_prepare_prepared :
    (h.prepare ((h.prepare i).run stat).value).run stat =
      (⟨if Qualified ((h.prepare i).run stat).value.program then []
        else [.unresolved ((h.prepare i).run stat).value.program],
        ((h.prepare i).run stat).value⟩ : Logged Invocation).bind h.confine := by
  rw [run_prepare_of_resolve hr, qualify, Probe.run_map, run_place_prepared]
  split <;> rfl

theorem asked_prepare_prepared :
    (h.prepare ((h.prepare i).run stat).value).asked stat =
      if Qualified ((h.prepare i).run stat).value.program then [] else (h.prepare i).asked stat := by
  rw [asked_prepare, Aliases.meaning_of_not_resolve hr]
  split
  · next hq => exact asked_place_of_qualified hq
  · next hq => rw [asked_prepare, meaning_of_not_qualified hq]

end

/-- A program with a blank entry stands for itself like one without an entry. A name that has come
through as it is goes the whole way again, to the same end. -/
theorem prepare_again (h : Host) (stat : Stat) (i : Invocation) :
    let first := ((h.prepare i).run stat).value
    let second := (h.prepare first).run stat
    let n := h.aliases.meaning first.program
    (second.value = (h.confine first).value ↔
      n = first.program ∨ (h.place n).run stat = .found first.program) ∧
    ((∀ target, h.aliases.get? first.program = some target → target = "") →
      second.value = (h.confine first).value ∧
      (h.root = none → second.value = first) ∧
      (∀ root, h.root = some root →
        second = ⟨[.confined root first.program],
          ⟨"/usr/sbin/chroot", root :: first.program :: first.args⟩⟩ ∧
        (h.prepare first).asked stat = []) ∧
      ('/' ∈ first.program.toList →
        second.events = (h.confine first).events ∧ (h.prepare first).asked stat = []) ∧
      ('/' ∉ first.program.toList →
        first = ⟨h.aliases.meaning i.program, i.args⟩ ∧ second = ⟨[.unresolved first.program], first⟩ ∧
        (h.prepare first).asked stat = (h.prepare i).asked stat)) := by
  intro first second n
  refine ⟨value_prepare_prepared i, fun hblank => ?_⟩
  have hr : h.aliases.resolve first.program = none := Aliases.resolve_eq_none_iff.2 hblank
  have hsecond : second = _ := run_prepare_prepared hr
  have hasked : (h.prepare first).asked stat = _ := asked_prepare_prepared hr
  have hconfine : second.value = (h.confine first).value := by
    rw [hsecond, Logged.bind]
  refine ⟨hconfine, ?_, ?_, ?_, ?_⟩
  · intro hroot
    rw [hconfine, value_confine, hroot]
  · intro root hroot
    have hq : Qualified first.program := by
      by_contra hq
      cases hroot.symm.trans (not_qualified_value_prepare.1 hq).1
    rw [hsecond, hasked, if_pos hq, if_pos hq]
    refine ⟨?_, rfl⟩
    simp only [Logged.bind, confine, hroot]
    rfl
  · intro (hq : Qualified first.program)
    rw [hsecond, hasked, if_pos hq, if_pos hq]
    exact ⟨List.nil_append _, rfl⟩
  · intro (hq : ¬ Qualified first.program)
    obtain ⟨hroot, hp⟩ := not_qualified_value_prepare.1 hq
    rw [hsecond, hasked, if_neg hq, if_neg hq]
    refine ⟨value_prepare_of_unresolved hroot hp, ?_, rfl⟩
    simp only [Logged.bind, confine, hroot]
    rfl

/-- Two names that stand for each other change places again and again. -/
example :
    let h : Host := ⟨.ofList [("a", "b"), ("b", "a")], none, .standard⟩
    let prepare (i : Invocation) := ((h.prepare i).run fun _ => .error (.os .notFound)).value
    prepare ⟨"a", ["-v"]⟩ = ⟨"b", ["-v"]⟩ ∧ prepare ⟨"b", ["-v"]⟩ = ⟨"a", ["-v"]⟩ := by
  decide +kernel

end Host

end RootedRun
