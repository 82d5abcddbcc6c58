import RootedRun.Files.Node
import RootedRun.Proofs.Host.Looks
import RootedRun.Proofs.SearchPath.Places

/-!
Whether what a host looks at lies below its root. A path is put behind the root as it is, so steps
upwards in it count. Main statement: a host looks and finds below its root exactly if no directory
of its search path leads above the root and, for the name `..`, none ends at the root itself.
-/

namespace RootedRun

namespace Path

def enter? (depth : Nat) (s : String) : Option Nat :=
  if s = "" ∨ s = "." then some depth
  else if s = ".." then (if depth = 0 then none else some (depth - 1))
  else some (depth + 1)

def level? (path : String) : Option Nat := (names path).foldlM enter? 0

theorem isSome_enter? {depth : Nat} {s : String} :
    (enter? depth s).isSome = true ↔ (s = ".." → depth ≠ 0) := by
  unfold enter?
  split
  · next h => rcases h with rfl | rfl <;> simp
  · split
    · next h => by_cases hd : depth = 0 <;> simp [h, hd]
    · next h => simp [h]

theorem isSome_foldlM_enter? (depth : Nat) (ss : List String) :
    (ss.foldlM enter? depth).isSome = staysBelow depth ss := by
  induction ss generalizing depth with
  | nil => rfl
  | cons s ss ih =>
    simp only [List.foldlM_cons, enter?, staysBelow]
    split
    · exact ih depth
    · split
      · cases depth with
        | zero => rfl
        | succ depth => exact ih depth
      · exact ih (depth + 1)

theorem foldlM_enter?_of_not_mem {ss : List String} (h : ".." ∉ ss) (depth : Nat) :
    ∃ n, ss.foldlM enter? depth = some n := by
  induction ss generalizing depth with
  | nil => exact ⟨depth, rfl⟩
  | cons s ss ih =>
    have hs : s ≠ ".." := fun hs => h (hs ▸ List.mem_cons_self)
    have henter : (enter? depth s).isSome = true := isSome_enter?.2 fun h => absurd h hs
    obtain ⟨d, hd⟩ := Option.isSome_iff_exists.1 henter
    rw [List.foldlM_cons, hd]
    exact ih (fun hss => h (List.mem_cons_of_mem s hss)) d

/-! ### Names in a path -/

theorem names_append_slash (cs ds : List Char) :
    names (String.ofList (cs ++ '/' :: ds)) = names (String.ofList cs) ++ names (String.ofList ds) := by
  simp [names, List.splitOn_append_cons_self]

theorem names_append_slashes (cs : List Char) (n : Nat) :
    names (String.ofList (cs ++ List.replicate n '/')) = names (String.ofList cs) := by
  induction n with
  | zero => simp
  | succ n ih =>
    have hend : names (String.ofList []) = [] := by decide
    rw [List.replicate_succ', ← List.append_assoc, names_append_slash, ih, hend, List.append_nil]

theorem names_of_not_mem {name : String} (h : '/' ∉ name.toList) :
    names name = if name = "" then [] else [name] := by
  rw [names, List.splitOn_eq_singleton h]
  by_cases hname : name = "" <;> simp [hname]

theorem names_location (dir : String) {name : String} (h : '/' ∉ name.toList) :
    names (SearchPath.location dir name) = names dir ++ if name = "" then [] else [name] := by
  obtain ⟨n, hdir⟩ := SearchPath.toList_eq_trimSlashes_append dir
  have htrim : names dir = names (SearchPath.trimSlashes dir) := by
    have hslashes := names_append_slashes (SearchPath.trimSlashes dir).toList n
    rwa [← hdir, String.ofList_toList, String.ofList_toList] at hslashes
  have hlocation := names_append_slash (SearchPath.trimSlashes dir).toList name.toList
  rwa [← SearchPath.toList_location, String.ofList_toList, String.ofList_toList, String.ofList_toList,
    names_of_not_mem h, ← htrim] at hlocation

theorem staysBelow_location_iff (dir : String) {name : String} (h : '/' ∉ name.toList) :
    staysBelow 0 (names (SearchPath.location dir name)) = true ↔
      ∃ n, level? dir = some n ∧ (name = ".." → n ≠ 0) := by
  rw [← isSome_foldlM_enter?, names_location dir h, List.foldlM_append, level?]
  cases (names dir).foldlM enter? 0 with
  | none => simp
  | some n =>
    by_cases hname : name = ""
    · simp [hname]
    · simpa [hname] using isSome_enter?

end Path

namespace Host

variable {h : Host} {stat : Stat} {name : String}

/-- Only its search path and the name decide where a host looks. -/
def Contained (p : SearchPath) (name : String) : Prop :=
  ∀ dir ∈ p.dirs, ∃ n, Path.level? dir = some n ∧ (name = ".." → n ≠ 0)

theorem forall_candidates_iff {p : SearchPath} (hq : '/' ∉ name.toList) :
    (∀ c ∈ p.candidates name, Path.staysBelow 0 (Path.names c) = true) ↔ Contained p name := by
  simp only [SearchPath.candidates, List.forall_mem_map, Path.staysBelow_location_iff _ hq, Contained]

theorem mem_asked_place {q : Query} (hm : q ∈ (h.place name).asked stat) :
    ∃ path, q.path = h.inRoot path ∧ (path = envHelper ∨ path ∈ h.searchPath.candidates name) := by
  rcases h.asked_place_cases stat name with ⟨-, hasked⟩ | ⟨-, -, hasked⟩ | ⟨-, -, hasked⟩
  · simp [hasked] at hm
  · rw [hasked, List.mem_singleton] at hm
    exact ⟨envHelper, hm ▸ rfl, .inl rfl⟩
  · rw [hasked] at hm
    rcases List.mem_cons.1 hm with rfl | hm
    · exact ⟨envHelper, rfl, .inl rfl⟩
    · obtain ⟨c, hc, rfl⟩ := List.mem_map.1 hm
      exact ⟨c, rfl, .inr (List.IsPrefix.subset (looked_isPrefix ..) hc)⟩

theorem mem_asked_of_mem_candidates {c : String} (hq : ¬ Qualified name)
    (hc : c ∈ h.searchPath.candidates name) :
    .reachable (h.inRoot c) ∈ (h.place name).asked fun _ => .error (.os .notFound) := by
  rw [asked_place_of_absent hq ⟨_, rfl, rfl⟩, asked_search, looked_of_failed fun _ _ => ⟨_, rfl⟩]
  exact List.mem_cons_of_mem _ (List.mem_map_of_mem hc)

theorem inRoot_inj {path path' : String} : h.inRoot path = h.inRoot path' ↔ path = path' := by
  unfold inRoot
  cases h.root with
  | none => rfl
  | some root => simp [← String.toList_inj]

def only (path : String) : Stat :=
  fun p => if p = path then .ok .other else .error (.os .notFound)

theorem failed_only {path p : String} (hp : p ≠ path) : (only path).Failed p := ⟨_, if_neg hp⟩

theorem run_place_only {c : String} (hq : ¬ Qualified name)
    (hc : c ∈ h.searchPath.candidates name) (hne : c ≠ envHelper) :
    (h.place name).run (only (h.inRoot c)) = .found c := by
  have habsent : (only (h.inRoot c)).Absent (h.inRoot envHelper) :=
    ⟨_, if_neg fun hsame => hne (inRoot_inj.1 hsame).symm, rfl⟩
  obtain ⟨front, back, hcs, hfront⟩ := List.eq_append_cons_of_mem hc
  refine run_place_eq.2 (.inr (.inr ⟨hq, habsent, run_search_eq_found.2 ?_⟩))
  refine ⟨front, back, hcs, ⟨.other, if_pos rfl⟩, fun d hd => failed_only fun hsame => ?_⟩
  exact hfront (inRoot_inj.1 hsame ▸ hd)

theorem mem_candidates_of_run_place {path : String} (hp : (h.place name).run stat = .found path) :
    path ∈ h.searchPath.candidates name := by
  obtain ⟨-, -, front, dir, back, hdirs, rfl, -⟩ := run_place_eq_found.1 hp
  exact List.mem_map_of_mem (hdirs ▸ List.mem_append_right front List.mem_cons_self)

theorem inside_envHelper : Path.staysBelow 0 (Path.names envHelper) = true := by decide

theorem forall_asked_iff :
    (∀ stat, ∀ q ∈ (h.place name).asked stat, ∀ path, q.path = h.inRoot path →
      Path.staysBelow 0 (Path.names path) = true) ↔
      '/' ∈ name.toList ∨ Contained h.searchPath name := by
  by_cases hq : '/' ∈ name.toList
  · simp [asked_place_of_qualified hq, hq]
  · rw [or_iff_right hq, ← forall_candidates_iff hq]
    constructor
    · intro hasked c hc
      exact hasked _ _ (mem_asked_of_mem_candidates hq hc) c rfl
    · intro hcandidates stat q hm path hpath
      obtain ⟨path', hpath', hc⟩ := mem_asked_place hm
      obtain rfl := inRoot_inj.1 (hpath.symm.trans hpath')
      rcases hc with rfl | hc
      · exact inside_envHelper
      · exact hcandidates path hc

theorem forall_found_iff :
    (∀ stat path, (h.place name).run stat = .found path →
      Path.staysBelow 0 (Path.names path) = true) ↔
      '/' ∈ name.toList ∨ Contained h.searchPath name := by
  by_cases hq : '/' ∈ name.toList
  · simp [run_place_eq_explicit.2 hq, hq]
  · rw [or_iff_right hq, ← forall_candidates_iff hq]
    constructor
    · intro hfound c hc
      by_cases hne : c = envHelper
      · exact hne ▸ inside_envHelper
      · exact hfound _ c (run_place_only hq hc hne)
    · intro hcandidates stat path hp
      exact hcandidates path (mem_candidates_of_run_place hp)

theorem contained_of_not_mem {p : SearchPath} (hname : name ≠ "..")
    (hdirs : ∀ dir ∈ p.dirs, ".." ∉ Path.names dir) : Contained p name := fun dir hdir =>
  have ⟨n, hn⟩ := Path.foldlM_enter?_of_not_mem (hdirs dir hdir) 0
  ⟨n, hn, fun h => absurd h hname⟩

theorem contained_standard (name : String) : Contained .standard name := by
  have hlevels : SearchPath.standard.dirs.map Path.level? =
      [some 3, some 3, some 2, some 2, some 1, some 1] := by decide
  intro dir hdir
  have hmem : Path.level? dir ∈ [some 3, some 3, some 2, some 2, some 1, some 1] :=
    hlevels ▸ List.mem_map_of_mem hdir
  cases hn : Path.level? dir with
  | none => simp [hn] at hmem
  | some n =>
    refine ⟨n, rfl, fun _ hzero => ?_⟩
    simp [hn, hzero] at hmem

/-- Everything that is looked at is the root with an absolute path behind it. Such a path, and one
that is found, stays below the root exactly if the directories do and `..` is not looked for in the
root itself. That goes without saying for the standard directories, and where neither a directory
nor the name has a `..`. -/
theorem looks_contained_iff (aliases : Aliases) (root : String) (p : SearchPath) (name : String)
    (args : List String) :
    let h : Host := ⟨aliases, some root, p⟩
    let inside (path : String) : Prop := Path.staysBelow 0 (Path.names path) = true
    let contained : Prop := ∀ dir ∈ p.dirs, ∃ n, Path.level? dir = some n ∧ (name = ".." → n ≠ 0)
    (∀ stat, ∀ q ∈ (h.qualify ⟨name, args⟩).asked stat, ∃ path, q.path = root ++ path ∧
      path.toList.head? = some '/' ∧ (path = "/usr/bin/env" ∨ path ∈ p.candidates name)) ∧
    ((∀ stat, ∀ q ∈ (h.qualify ⟨name, args⟩).asked stat, ∀ path, q.path = root ++ path →
      inside path) ↔ '/' ∈ name.toList ∨ contained) ∧
    ((∀ stat path, (h.place name).run stat = .found path → inside path) ↔
      '/' ∈ name.toList ∨ contained) ∧
    (name ≠ ".." → (∀ dir ∈ p.dirs, ".." ∉ Path.names dir) → contained) ∧
    (p = .standard → contained) := by
  intro h inside contained
  have hasked (stat) : (h.qualify ⟨name, args⟩).asked stat = (h.place name).asked stat :=
    Probe.asked_map ..
  simp only [hasked]
  refine ⟨fun stat q hm => ?_, forall_asked_iff, forall_found_iff, contained_of_not_mem, ?_⟩
  · obtain ⟨path, hpath, hc⟩ := mem_asked_place hm
    refine ⟨path, hpath, ?_, hc⟩
    rcases hc with rfl | hc
    · rfl
    · exact SearchPath.head?_of_mem_candidates hc
  · rintro rfl
    exact contained_standard name

/-- A directory that leads above the root, and a file that lies beside it. -/
theorem found_beside_root :
    let h : Host := ⟨.empty, some "root", ⟨["/.."], by decide⟩⟩
    let stat := only "root/../tool"
    ((h.qualify ⟨"tool", ["-v"]⟩).run stat).value = ⟨"/../tool", ["-v"]⟩ ∧
    .reachable ("root" ++ "/../tool") ∈ (h.qualify ⟨"tool", ["-v"]⟩).asked stat ∧
    Path.staysBelow 0 (Path.names "/../tool") = false := by
  decide +kernel

end Host

end RootedRun
