import Mathlib.Data.List.TakeWhile
import RootedRun.Host.Basic
import RootedRun.Proofs.SearchPath.Location

/-!
How a host comes to prepare a command. Where a name is placed depends on the name, on one look for
the helper and, where that finds it missing, on the first candidate that is there. Main statement:
the four ways, each with exactly what it takes, and the command each of them leads to.
-/

namespace RootedRun

/-- What a name stands for: the target of its entry, or itself if there is none or a blank one. -/
def Aliases.meaning (m : Aliases) (name : String) : String :=
  match m.get? name with
  | some target => if target = "" then name else target
  | none => name

theorem Aliases.meaning_of_resolve {m : Aliases} {name target : String}
    (h : m.resolve name = some target) : m.meaning name = target := by
  obtain ⟨hget, -⟩ := Option.filter_eq_some_iff.1 h
  simp [meaning, hget, resolve_ne_blank h]

theorem Aliases.meaning_of_not_resolve {m : Aliases} {name : String}
    (h : m.resolve name = none) : m.meaning name = name := by
  unfold meaning
  cases hget : m.get? name with
  | none => rfl
  | some target =>
    have hblank : target = "" := by simpa [resolve, hget] using h
    simp [hblank]

namespace Host

variable (h : Host) (stat : Stat)

/-! ### What a search finds and asks -/

theorem run_search (cs : List String) :
    (h.search cs).run stat =
      (cs.find? fun c => stat.succeeds (h.inRoot c)).elim .unresolved .found := by
  induction cs with
  | nil => rfl
  | cons c cs ih =>
    cases hc : stat.succeeds (h.inRoot c) with
    | true => simp [search, Probe.run, Query.answer, hc]
    | false => simpa [search, Probe.run, Query.answer, hc] using ih

def looked (cs : List String) : List String :=
  (cs.takeWhile fun c => ! stat.succeeds (h.inRoot c))
    ++ (cs.find? fun c => stat.succeeds (h.inRoot c)).toList

theorem asked_search (cs : List String) :
    (h.search cs).asked stat = (h.looked stat cs).map fun c => .reachable (h.inRoot c) := by
  unfold looked
  induction cs with
  | nil => rfl
  | cons c cs ih =>
    cases hc : stat.succeeds (h.inRoot c) with
    | true => simp [search, Probe.asked, Query.answer, hc]
    | false => simpa [search, Probe.asked, Query.answer, hc] using ih

theorem looked_isPrefix (cs : List String) : h.looked stat cs <+: cs := by
  unfold looked
  induction cs with
  | nil => exact List.nil_prefix
  | cons c cs ih =>
    cases hc : stat.succeeds (h.inRoot c) with
    | true => simp [hc]
    | false => simpa [hc] using ih

variable {h stat}

theorem looked_of_failed {cs : List String} (hcs : ∀ c ∈ cs, stat.Failed (h.inRoot c)) :
    h.looked stat cs = cs := by
  have hfail : ∀ c ∈ cs, stat.succeeds (h.inRoot c) = false :=
    fun c hc => Stat.succeeds_eq_false.2 (hcs c hc)
  have htake : (cs.takeWhile fun c => ! stat.succeeds (h.inRoot c)) = cs :=
    List.takeWhile_eq_self_iff.2 (by simpa using hfail)
  have hfind : (cs.find? fun c => stat.succeeds (h.inRoot c)) = none :=
    List.find?_eq_none.2 (by simpa using hfail)
  rw [looked, htake, hfind, Option.toList_none, List.append_nil]

theorem run_search_eq_found {cs : List String} {path : String} :
    (h.search cs).run stat = .found path ↔
      ∃ front back, cs = front ++ path :: back ∧ stat.Found (h.inRoot path) ∧
        ∀ c ∈ front, stat.Failed (h.inRoot c) := by
  have hfind : (h.search cs).run stat = .found path ↔
      (cs.find? fun c => stat.succeeds (h.inRoot c)) = some path := by
    rw [run_search]
    cases List.find? _ cs <;> simp
  rw [hfind, List.find?_eq_some_iff_append]
  simp only [Bool.not_eq_true', Stat.succeeds_eq_true, Stat.succeeds_eq_false]
  constructor
  · rintro ⟨hpath, front, back, hcs, hfront⟩
    exact ⟨front, back, hcs, hpath, hfront⟩
  · rintro ⟨front, back, hcs, hpath, hfront⟩
    exact ⟨hpath, front, back, hcs, hfront⟩

theorem run_search_eq_unresolved {cs : List String} :
    (h.search cs).run stat = .unresolved ↔ ∀ c ∈ cs, stat.Failed (h.inRoot c) := by
  have hfind : (h.search cs).run stat = .unresolved ↔
      (cs.find? fun c => stat.succeeds (h.inRoot c)) = none := by
    rw [run_search]
    cases List.find? _ cs <;> simp
  simp only [hfind, List.find?_eq_none, Bool.not_eq_true, Stat.succeeds_eq_false]

theorem run_search_ne_explicit {cs : List String} : (h.search cs).run stat ≠ .explicit := by
  rw [run_search]
  cases List.find? _ cs <;> simp

theorem run_search_ne_pinned {cs : List String} : (h.search cs).run stat ≠ .pinned := by
  rw [run_search]
  cases List.find? _ cs <;> simp

/-! ### Where a name is placed -/

theorem run_place_eq {name : String} {p : Placement} :
    (h.place name).run stat = p ↔
      (Qualified name ∧ p = .explicit) ∨
      (¬ Qualified name ∧ ¬ stat.Absent (h.inRoot envHelper) ∧ p = .pinned) ∨
      (¬ Qualified name ∧ stat.Absent (h.inRoot envHelper) ∧
        (h.search (h.searchPath.candidates name)).run stat = p) := by
  rw [← Stat.missing_eq_true]
  by_cases hq : Qualified name
  · simpa [place, hq, Probe.run] using eq_comm
  · cases hm : stat.missing (h.inRoot envHelper) with
    | true => simp [place, hq, Probe.run, Query.answer, hm]
    | false => simpa [place, hq, Probe.run, Query.answer, hm] using eq_comm

theorem run_place_eq_explicit {name : String} :
    (h.place name).run stat = .explicit ↔ Qualified name := by
  simp [run_place_eq, run_search_ne_explicit]

theorem run_place_eq_pinned {name : String} :
    (h.place name).run stat = .pinned ↔
      ¬ Qualified name ∧ ¬ stat.Absent (h.inRoot envHelper) := by
  simp [run_place_eq, run_search_ne_pinned]

theorem run_place_eq_found {name path : String} :
    (h.place name).run stat = .found path ↔
      ¬ Qualified name ∧ stat.Absent (h.inRoot envHelper) ∧
        ∃ front dir back, h.searchPath.dirs = front ++ dir :: back ∧
          path = SearchPath.location dir name ∧ stat.Found (h.inRoot path) ∧
          ∀ d ∈ front, stat.Failed (h.inRoot (SearchPath.location d name)) := by
  simp only [run_place_eq, reduceCtorEq, and_false, false_or, run_search_eq_found,
    SearchPath.candidates, List.map_eq_append_iff, List.map_eq_cons_iff]
  refine and_congr_right fun _ => and_congr_right fun _ => ⟨?_, ?_⟩
  · rintro ⟨_, _, ⟨front, _, hdirs, rfl, dir, back, rfl, rfl, rfl⟩, hpath, hfront⟩
    exact ⟨front, dir, back, hdirs, rfl, hpath, by simpa using hfront⟩
  · rintro ⟨front, dir, back, hdirs, rfl, hpath, hfront⟩
    exact ⟨_, _, ⟨front, _, hdirs, rfl, dir, back, rfl, rfl, rfl⟩, hpath, by simpa using hfront⟩

theorem run_place_eq_unresolved {name : String} :
    (h.place name).run stat = .unresolved ↔
      ¬ Qualified name ∧ stat.Absent (h.inRoot envHelper) ∧
        ∀ d ∈ h.searchPath.dirs, stat.Failed (h.inRoot (SearchPath.location d name)) := by
  simp [run_place_eq, run_search_eq_unresolved, SearchPath.candidates]

theorem asked_place_of_absent {name : String} (hq : ¬ Qualified name)
    (hm : stat.Absent (h.inRoot envHelper)) :
    (h.place name).asked stat =
      .missing (h.inRoot envHelper) :: (h.search (h.searchPath.candidates name)).asked stat := by
  simp [place, hq, Probe.asked, Query.answer, Stat.missing_eq_true.2 hm]

/-! ### What the steps make of a command -/

theorem value_rename (i : Invocation) :
    (h.rename i).value = ⟨h.aliases.meaning i.program, i.args⟩ := by
  unfold rename
  cases hr : h.aliases.resolve i.program with
  | none => simp [Logged.quiet, Aliases.meaning_of_not_resolve hr]
  | some target => simp [Aliases.meaning_of_resolve hr]

theorem value_qualify (i : Invocation) :
    ((h.qualify i).run stat).value = h.settle i ((h.place i.program).run stat) := by
  simp [qualify]

theorem value_qualify_of_not_absent {i : Invocation} (hq : ¬ Qualified i.program)
    (hp : ¬ stat.Absent (h.inRoot envHelper)) :
    ((h.qualify i).run stat).value =
      ⟨envHelper, "-i" :: ("PATH=" ++ h.searchPath.joined) :: i.program :: i.args⟩ := by
  rw [value_qualify, run_place_eq_pinned.2 ⟨hq, hp⟩]
  rfl

theorem value_confine (i : Invocation) :
    (h.confine i).value =
      match h.root with
      | none => i
      | some root => ⟨chrootProgram, root :: i.words⟩ := by
  unfold confine
  cases h.root <;> rfl

theorem value_prepare (i : Invocation) :
    ((h.prepare i).run stat).value =
      (h.confine ((h.qualify (h.rename i).value).run stat).value).value := by
  simp [prepare, Logged.bind]

/-! ### When a path comes of a name -/

theorem qualified_value_qualify {i : Invocation} :
    Qualified ((h.qualify i).run stat).value.program ↔
      (h.place i.program).run stat ≠ .unresolved := by
  rw [value_qualify]
  cases hp : (h.place i.program).run stat with
  | explicit => simpa [settle] using run_place_eq_explicit.1 hp
  | pinned => simpa [settle] using qualified_envHelper
  | found path =>
    obtain ⟨-, -, _, dir, _, -, rfl, -⟩ := run_place_eq_found.1 hp
    simpa [settle] using SearchPath.qualified_location dir i.program
  | unresolved => simpa [settle] using (run_place_eq_unresolved.1 hp).1

theorem not_qualified_value_prepare {i : Invocation} :
    ¬ Qualified ((h.prepare i).run stat).value.program ↔
      h.root = none ∧ (h.place (h.aliases.meaning i.program)).run stat = .unresolved := by
  rw [value_prepare, value_confine, value_rename]
  cases h.root with
  | none => simp [qualified_value_qualify]
  | some root => simpa using qualified_chrootProgram

theorem value_prepare_of_unresolved {i : Invocation} (hroot : h.root = none)
    (hp : (h.place (h.aliases.meaning i.program)).run stat = .unresolved) :
    ((h.prepare i).run stat).value = ⟨h.aliases.meaning i.program, i.args⟩ := by
  rw [value_prepare, value_confine, hroot, value_rename, value_qualify, hp]
  rfl

/-- Either the name is a path, or the helper is not known to be missing, or the first directory that
has the command settles it, or no directory has it. The root counts for looking and is put in front
of the command in the end, but it is no part of a path that has been found. -/
theorem prepare_by_placement (h : Host) (stat : Stat) (name : String) (args : List String) :
    let n := h.aliases.meaning name
    let seen (path : String) := match h.root with
      | none => path
      | some root => root ++ path
    let candidate (dir path : String) := ∃ (bare : String) (slashes : Nat),
      dir.toList = bare.toList ++ List.replicate slashes '/' ∧ bare.toList.getLast? ≠ some '/' ∧
        path = bare ++ "/" ++ n
    let placement := (h.place n).run stat
    let handed := ((h.qualify (h.rename ⟨name, args⟩).value).run stat).value
    (placement = .explicit ↔ '/' ∈ n.toList) ∧
    (placement = .pinned ↔ '/' ∉ n.toList ∧
      ¬ ∃ e, stat (seen "/usr/bin/env") = .error e ∧ e.kind = .notFound) ∧
    (∀ path, placement = .found path ↔ '/' ∉ n.toList ∧
      (∃ e, stat (seen "/usr/bin/env") = .error e ∧ e.kind = .notFound) ∧
      ∃ front dir back, h.searchPath.dirs = front ++ dir :: back ∧ candidate dir path ∧
        (∃ t, stat (seen path) = .ok t) ∧
        ∀ d ∈ front, ∃ c, candidate d c ∧ ∃ e, stat (seen c) = .error e) ∧
    (placement = .unresolved ↔ '/' ∉ n.toList ∧
      (∃ e, stat (seen "/usr/bin/env") = .error e ∧ e.kind = .notFound) ∧
      ∀ d ∈ h.searchPath.dirs, ∃ c, candidate d c ∧ ∃ e, stat (seen c) = .error e) ∧
    handed = (match placement with
      | .explicit | .unresolved => ⟨n, args⟩
      | .pinned => ⟨"/usr/bin/env",
          "-i" :: ("PATH=" ++ String.intercalate ":" h.searchPath.dirs) :: n :: args⟩
      | .found path => ⟨path, args⟩) ∧
    ((h.prepare ⟨name, args⟩).run stat).value = (match h.root with
      | none => handed
      | some root => ⟨"/usr/sbin/chroot", root :: handed.program :: handed.args⟩) := by
  intro n seen candidate placement handed
  have hcandidate (dir path : String) : candidate dir path ↔ path = SearchPath.location dir n :=
    SearchPath.location_eq_iff.symm.trans eq_comm
  refine ⟨run_place_eq_explicit, run_place_eq_pinned, fun path => ?_, ?_, ?_, ?_⟩
  · simp only [hcandidate, exists_eq_left]
    exact run_place_eq_found
  · simp only [hcandidate, exists_eq_left]
    exact run_place_eq_unresolved
  · dsimp only [handed, placement, n]
    rw [value_rename, value_qualify]
    cases (h.place _).run stat <;> rfl
  · rw [value_prepare, value_confine]
    rfl

end Host

end RootedRun
