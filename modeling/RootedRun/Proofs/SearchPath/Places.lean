import Mathlib.Data.List.Forall2
import RootedRun.Job.Lookup
import RootedRun.Proofs.Host.Placement

/-!
The two readings of a search path: as the value of `PATH`, cut at its colons, and directory by
directory. Main statement: both lead to the same places in the same order exactly if there is a
directory at all, since a blank value still names one place, the current directory.
-/

namespace RootedRun

namespace Path

/-- A path with each run of slashes made one. -/
def squeeze : List Char → List Char
  | [] => []
  | c :: cs => if c = '/' ∧ cs.head? = some '/' then squeeze cs else c :: squeeze cs

def Same (p q : String) : Prop := squeeze p.toList = squeeze q.toList

instance (p q : String) : Decidable (Same p q) := inferInstanceAs (Decidable (_ = _))

theorem squeeze_append_slash (cs ds : List Char) :
    squeeze (cs ++ '/' :: '/' :: ds) = squeeze (cs ++ '/' :: ds) := by
  induction cs with
  | nil => simp [squeeze]
  | cons c cs ih =>
    have hhead : (cs ++ '/' :: '/' :: ds).head? = (cs ++ '/' :: ds).head? := by
      cases cs <;> rfl
    simp only [List.cons_append, squeeze, hhead, ih]

theorem squeeze_append_slashes (cs ds : List Char) (n : Nat) :
    squeeze (cs ++ (List.replicate n '/' ++ '/' :: ds)) = squeeze (cs ++ '/' :: ds) := by
  induction n with
  | zero => rfl
  | succ n ih =>
    rw [List.replicate_succ', List.append_assoc, List.singleton_append, ← List.append_assoc,
      squeeze_append_slash, List.append_assoc]
    exact ih

end Path

namespace SearchPath

theorem same_location (dir name : String) : Path.Same (dir ++ "/" ++ name) (location dir name) := by
  obtain ⟨n, hdir⟩ := toList_eq_trimSlashes_append dir
  have hlist : (dir ++ "/" ++ name).toList =
      (trimSlashes dir).toList ++ (List.replicate n '/' ++ '/' :: name.toList) := by
    simp [hdir]
  rw [Path.Same, hlist, toList_location]
  exact Path.squeeze_append_slashes ..

theorem head?_of_mem_candidates {p : SearchPath} {name c : String} (h : c ∈ p.candidates name) :
    c.toList.head? = some '/' := by
  obtain ⟨dir, hdir, rfl⟩ := List.mem_map.1 h
  exact head?_location (p.valid dir hdir).1 name

/-! ### The value of `PATH` -/

theorem ne_blank_of_mem {p : SearchPath} {dir : String} (h : dir ∈ p.dirs) : dir ≠ "" := by
  rintro rfl
  cases (p.valid "" h).1

theorem dirs_joined {p : SearchPath} (h : p.dirs ≠ []) : Lookup.dirs p.joined = p.dirs := by
  have hcolon : ∀ cs ∈ p.dirs.map String.toList, ':' ∉ cs := by
    intro cs hcs
    obtain ⟨dir, hdir, rfl⟩ := List.mem_map.1 hcs
    exact (p.valid dir hdir).2
  have hlist : p.joined.toList = [':'].intercalate (p.dirs.map String.toList) :=
    String.toList_intercalate
  rw [Lookup.dirs, hlist, List.splitOn_intercalate ':' hcolon (by simpa using h)]
  simp [Function.comp_def]

theorem dirs_joined_nil {p : SearchPath} (h : p.dirs = []) : Lookup.dirs p.joined = [""] := by
  rw [joined, h]
  rfl

theorem locations_joined {p : SearchPath} (h : p.dirs ≠ []) (name : String) :
    Lookup.locations p.joined name = p.dirs.map fun dir => dir ++ "/" ++ name := by
  rw [Lookup.locations, dirs_joined h]
  exact List.map_congr_left fun dir hdir => if_neg (ne_blank_of_mem hdir)

theorem candidates_of_nil {p : SearchPath} (h : p.dirs = []) (name : String) :
    p.candidates name = [] := by
  rw [candidates, h]
  rfl

theorem forall₂_same_iff {p : SearchPath} {name : String} :
    List.Forall₂ Path.Same (Lookup.locations p.joined name) (p.candidates name) ↔ p.dirs ≠ [] := by
  refine ⟨fun hsame hdirs => ?_, fun hdirs => ?_⟩
  · rw [Lookup.locations, dirs_joined_nil hdirs, candidates_of_nil hdirs] at hsame
    cases hsame
  · rw [locations_joined hdirs, candidates, List.forall₂_map_left_iff, List.forall₂_map_right_iff,
      List.forall₂_same]
    exact fun dir _ => same_location dir name

theorem length_dirs_joined_iff {p : SearchPath} {name : String} :
    (Lookup.dirs p.joined).length = (p.candidates name).length ↔ p.dirs ≠ [] := by
  refine ⟨fun hlength hdirs => ?_, fun hdirs => ?_⟩
  · rw [dirs_joined_nil hdirs, candidates_of_nil hdirs] at hlength
    cases hlength
  · rw [dirs_joined hdirs, candidates, List.length_map]

theorem forall_absolute_iff {p : SearchPath} :
    (∀ dir ∈ Lookup.dirs p.joined, dir.toList.head? = some '/') ↔ p.dirs ≠ [] := by
  refine ⟨fun habs hdirs => ?_, fun hdirs => ?_⟩
  · rw [dirs_joined_nil hdirs] at habs
    cases habs "" (List.mem_singleton_self "")
  · rw [dirs_joined hdirs]
    exact fun dir hdir => (p.valid dir hdir).1

end SearchPath

namespace Host

variable {h : Host} {present absent : Stat}

/-- A name is looked for in the same places, in the same order, whether the helper is there to look
for it or not, provided that there is any place at all. Without directories the helper looks into
the current one, where the host looks nowhere. -/
theorem same_places_iff {name : String} (args : List String) (hq : '/' ∉ name.toList)
    (hp : ¬ ∃ e, present (h.inRoot "/usr/bin/env") = .error e ∧ e.kind = .notFound)
    (ha : ∃ e, absent (h.inRoot "/usr/bin/env") = .error e ∧ e.kind = .notFound) :
    let value := h.searchPath.joined
    let places := h.searchPath.candidates name
    ((h.qualify ⟨name, args⟩).run present).value =
      ⟨"/usr/bin/env", "-i" :: ("PATH=" ++ value) :: name :: args⟩ ∧
    ∃ probed, (h.qualify ⟨name, args⟩).asked absent =
        .missing (h.inRoot "/usr/bin/env") :: probed.map (fun c => .reachable (h.inRoot c)) ∧
      probed <+: places ∧
      ((∀ c ∈ places, ∃ e, absent (h.inRoot c) = .error e) → probed = places) ∧
      (List.Forall₂ Path.Same (Lookup.locations value name) places ↔ h.searchPath.dirs ≠ []) ∧
      ((Lookup.dirs value).length = places.length ↔ h.searchPath.dirs ≠ []) ∧
      ((∀ dir ∈ Lookup.dirs value, dir.toList.head? = some '/') ↔ h.searchPath.dirs ≠ []) ∧
      ∀ c ∈ places, c.toList.head? = some '/' := by
  intro value places
  refine ⟨value_qualify_of_not_absent hq hp, h.looked absent places, ?_, looked_isPrefix ..,
    looked_of_failed, SearchPath.forall₂_same_iff, SearchPath.length_dirs_joined_iff,
    SearchPath.forall_absolute_iff, fun c => SearchPath.head?_of_mem_candidates⟩
  rw [qualify, Probe.asked_map, asked_place_of_absent hq ha, asked_search]
  rfl

/-- Below a root, with slashes at the ends, a root among the directories and one of them twice. -/
theorem same_places_opt :
    let h : Host := ⟨.empty, some "/r", ⟨["/opt//", "/", "/opt//"], by decide⟩⟩
    let present : Stat := fun _ => .ok .other
    let absent : Stat := fun path => if path = "/r/tool" then .ok .other else .error (.os .notFound)
    '/' ∉ "tool".toList ∧ ¬ present.Absent "/r/usr/bin/env" ∧ absent.Absent "/r/usr/bin/env" ∧
    ((h.qualify ⟨"tool", ["-v"]⟩).run present).value =
      ⟨"/usr/bin/env", ["-i", "PATH=" ++ h.searchPath.joined, "tool", "-v"]⟩ ∧
    ∃ probed, (h.qualify ⟨"tool", ["-v"]⟩).asked absent =
        .missing "/r/usr/bin/env" :: probed.map (fun c => .reachable ("/r" ++ c)) ∧
      probed <+: h.searchPath.candidates "tool" ∧
      List.Forall₂ Path.Same (Lookup.locations h.searchPath.joined "tool")
        (h.searchPath.candidates "tool") := by
  intro h present absent
  have hq : '/' ∉ "tool".toList := by decide
  have hp : ¬ present.Absent (h.inRoot "/usr/bin/env") := by
    rintro ⟨_, hfail, _⟩
    cases hfail
  have ha : absent.Absent (h.inRoot "/usr/bin/env") := ⟨.os .notFound, by decide +kernel, rfl⟩
  obtain ⟨hvalue, probed, hprobed, hprefix, -, hsame, -⟩ := same_places_iff ["-v"] hq hp ha
  exact ⟨hq, hp, ha, hvalue, probed, hprobed, hprefix, hsame.2 (List.cons_ne_nil _ _)⟩

/-- With no directory to search, the helper is told to look into one place and the host into none. -/
theorem current_directory_searched :
    let h : Host := ⟨.empty, none, ⟨[], by simp⟩⟩
    let places := h.searchPath.candidates "tool"
    ((h.qualify ⟨"tool", ["-c", "exit 3"]⟩).run fun _ => .ok .other).value =
      ⟨"/usr/bin/env", ["-i", "PATH=" ++ "", "tool", "-c", "exit 3"]⟩ ∧
    (h.qualify ⟨"tool", ["-c", "exit 3"]⟩).asked (fun _ => .error (.os .notFound)) =
      .missing "/usr/bin/env" :: places.map .reachable ∧
    Lookup.locations "" "tool" = ["tool"] ∧
    ¬ List.Forall₂ Path.Same (Lookup.locations "" "tool") places := by
  refine ⟨by decide +kernel, by decide +kernel, by decide +kernel, ?_⟩
  intro hsame
  cases hsame

end Host

end RootedRun
