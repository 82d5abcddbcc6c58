import Mathlib.Data.List.Nodup
import RootedRun.Host.Replay
import RootedRun.Host.Setup
import RootedRun.Proofs.Aliases.LastWrite

namespace RootedRun

namespace Host

def Usable (stat : Stat) (root : String) : Prop := root = "" ∨ stat root = .ok .directory

def rootOf (root : String) : Option String := if root = "" then none else some root

variable {stat : Stat} {aliases : Aliases} {root : String}

theorem create_of_usable (h : Usable stat root) :
    create stat aliases root = .ok ⟨aliases, rootOf root, .standard⟩ := by
  unfold create rootOf
  by_cases hroot : root = ""
  · rw [if_pos hroot, if_pos hroot]
  · have hdir : stat.isDirectory root = true := Stat.isDirectory_eq_true.2 (h.resolve_left hroot)
    rw [if_neg hroot, if_neg hroot, if_pos hdir]

theorem create_of_not_usable (h : ¬ Usable stat root) :
    create stat aliases root = .error (.rootNotDirectory root) := by
  obtain ⟨hroot, hdir⟩ := not_or.1 h
  rw [← Stat.isDirectory_eq_true] at hdir
  rw [create, if_neg hroot, if_neg hdir]

/-! ### The search path -/

theorem effectiveSearchPath_eq (s : Settings) :
    s.effectiveSearchPath = SearchPath.ofList (s.searchPath.getD SearchPath.standard.dirs) := by
  unfold Settings.effectiveSearchPath
  cases s.searchPath with
  | none => exact (SearchPath.ofList_dirs .standard).symm
  | some dirs => rfl

theorem searchPath_cases (listed : Option (List String)) :
    ((∀ d ∈ listed.getD [], SearchPath.IsEntry d) ∧
      ∃ p, SearchPath.ofList (listed.getD SearchPath.standard.dirs) = .ok p) ∨
    ∃ front d back, listed.getD [] = front ++ d :: back ∧ (∀ c ∈ front, SearchPath.IsEntry c) ∧
      ¬ SearchPath.IsEntry d ∧
      SearchPath.ofList (listed.getD SearchPath.standard.dirs) = .error (.badEntry d) := by
  cases listed with
  | none => exact .inl ⟨by simp, _, SearchPath.ofList_dirs .standard⟩
  | some dirs =>
    cases hdirs : SearchPath.ofList dirs with
    | error e =>
      obtain ⟨front, d, back, hlisted, hfront, hd, rfl⟩ := SearchPath.ofList_eq_error_iff.1 hdirs
      exact .inr ⟨front, d, back, hlisted, hfront, hd, hdirs⟩
    | ok p => exact .inl ⟨SearchPath.exists_ofList_iff.1 ⟨p, hdirs⟩, p, hdirs⟩

/-! ### Both ways -/

theorem configured_rootOf (aliases : Aliases) (root : String) (p : SearchPath) :
    configured ⟨aliases, rootOf root, p⟩ = .configured root aliases.size := by
  unfold configured rootOf
  by_cases hroot : root = "" <;> simp [hroot]

theorem ofParts_of_usable (h : Usable stat root) (dirs : Option (List String)) :
    ofParts stat aliases root dirs =
      ⟨[.configured root aliases.size],
        (SearchPath.ofList (dirs.getD SearchPath.standard.dirs)).map fun p =>
          ⟨aliases, rootOf root, p⟩⟩ := by
  rw [ofParts, create_of_usable h, announce, configured_rootOf]
  cases dirs with
  | none =>
    rw [Option.getD_none, SearchPath.ofList_dirs]
    rfl
  | some dirs =>
    simp only [Logged.map, Option.getD_some]
    cases SearchPath.ofList dirs <;> rfl

theorem ofParts_of_not_usable (h : ¬ Usable stat root) (dirs : Option (List String)) :
    ofParts stat aliases root dirs = .quiet (.error (.rootNotDirectory root)) := by
  rw [ofParts, create_of_not_usable h]
  cases dirs <;> rfl

theorem ofSettings_of_error {s : Settings} {e : SetupError}
    (h : SearchPath.ofList (s.searchPath.getD SearchPath.standard.dirs) = .error e) :
    ofSettings stat s = .quiet (.error e) := by
  rw [ofSettings, effectiveSearchPath_eq, h]

theorem ofSettings_of_usable {s : Settings} {p : SearchPath} (h : Usable stat s.rootDir)
    (hp : SearchPath.ofList (s.searchPath.getD SearchPath.standard.dirs) = .ok p) :
    ofSettings stat s =
      ⟨[.configured s.rootDir s.aliases.size], .ok ⟨s.aliases, rootOf s.rootDir, p⟩⟩ := by
  rw [ofSettings, effectiveSearchPath_eq, hp, create_of_usable h]
  simp only [announce, configured_rootOf]
  rfl

theorem ofSettings_of_not_usable {s : Settings} {p : SearchPath} (h : ¬ Usable stat s.rootDir)
    (hp : SearchPath.ofList (s.searchPath.getD SearchPath.standard.dirs) = .ok p) :
    ofSettings stat s = .quiet (.error (.rootNotDirectory s.rootDir)) := by
  rw [ofSettings, effectiveSearchPath_eq, hp, create_of_not_usable h]
  rfl

theorem ofSettings_congr {s s' : Settings} (haliases : s.aliases = s'.aliases)
    (hroot : s.rootDir = s'.rootDir) (hdirs : s.searchPath.getD SearchPath.standard.dirs =
      s'.searchPath.getD SearchPath.standard.dirs) :
    ofSettings stat s = ofSettings stat s' := by
  simp only [ofSettings, effectiveSearchPath_eq, haliases, hroot, hdirs]

/-- What is listed is checked entry by entry, the root by one look that follows links. The number
that is told is that of the names with a target, whether that is blank or not. A setting that is left
out counts as its standard value: a blank root, which is none, and the standard directories. -/
theorem setup_routes_agree (stat : Stat) (aliases : Aliases) (root : String)
    (dirs : Option (List String)) :
    let good (dir : String) := dir.toList.head? = some '/' ∧ ':' ∉ dir.toList
    let standard :=
      ["/usr/local/sbin", "/usr/local/bin", "/usr/sbin", "/usr/bin", "/sbin", "/bin"]
    let listed := dirs.getD []
    let usable := root = "" ∨ stat root = .ok .directory
    let event := Event.configured root aliases.size
    let direct := ofParts stat aliases root dirs
    let written := ofSettings stat ⟨aliases, some root, dirs⟩
    ((usable ∧ (∀ d ∈ listed, good d) ∧ ∃ h,
        direct = ⟨[event], .ok h⟩ ∧ written = ⟨[event], .ok h⟩ ∧
        h.aliases = aliases ∧ h.root = (if root = "" then none else some root) ∧
        h.searchPath.dirs = dirs.getD standard) ∨
      (¬ usable ∧ (∀ d ∈ listed, good d) ∧
        direct = ⟨[], .error (.rootNotDirectory root)⟩ ∧
        written = ⟨[], .error (.rootNotDirectory root)⟩) ∨
      (usable ∧ ∃ front d back, listed = front ++ d :: back ∧ (∀ c ∈ front, good c) ∧ ¬ good d ∧
        direct = ⟨[event], .error (.badEntry d)⟩ ∧ written = ⟨[], .error (.badEntry d)⟩) ∨
      (¬ usable ∧ ∃ front d back, listed = front ++ d :: back ∧ (∀ c ∈ front, good c) ∧ ¬ good d ∧
        direct = ⟨[], .error (.rootNotDirectory root)⟩ ∧
        written = ⟨[], .error (.badEntry d)⟩)) ∧
    (∃ names : List String, names.Nodup ∧
      (∀ name, name ∈ names ↔ ∃ target, aliases.get? name = some target) ∧
      event.line = ⟨.info, "host exec wrapper configured",
        [("chroot_dir", .text root), ("mapped_commands", .number names.length)]⟩) ∧
    ofSettings stat ⟨aliases, none, dirs⟩ = ofSettings stat ⟨aliases, some "", dirs⟩ ∧
    ofSettings stat ⟨aliases, some root, none⟩ = ofSettings stat ⟨aliases, some root, some standard⟩ ∧
    ∀ s s' : Settings, s.aliases = s'.aliases → s.root.getD "" = s'.root.getD "" →
      s.searchPath.getD standard = s'.searchPath.getD standard →
      ofSettings stat s = ofSettings stat s' := by
  intro good standard listed usable event direct written
  refine ⟨?_, ?_, ofSettings_congr rfl rfl rfl, ofSettings_congr rfl rfl rfl,
    fun s s' => ofSettings_congr⟩
  · by_cases hroot : Usable stat root
    · have hdirect : direct = _ := ofParts_of_usable hroot dirs
      rcases searchPath_cases dirs with
        ⟨hgood, p, hp⟩ | ⟨front, d, back, hlisted, hfront, hd, hp⟩
      · rw [hp] at hdirect
        exact .inl ⟨hroot, hgood, _, hdirect, ofSettings_of_usable hroot hp, rfl, rfl,
          SearchPath.dirs_of_ofList hp⟩
      · rw [hp] at hdirect
        exact .inr (.inr (.inl ⟨hroot, front, d, back, hlisted, hfront, hd, hdirect,
          ofSettings_of_error hp⟩))
    · have hdirect : direct = _ := ofParts_of_not_usable hroot dirs
      rcases searchPath_cases dirs with
        ⟨hgood, p, hp⟩ | ⟨front, d, back, hlisted, hfront, hd, hp⟩
      · exact .inr (.inl ⟨hroot, hgood, hdirect, ofSettings_of_not_usable hroot hp⟩)
      · exact .inr (.inr (.inr ⟨hroot, front, d, back, hlisted, hfront, hd, hdirect,
          ofSettings_of_error hp⟩))
  · refine ⟨aliases.entries.map Prod.fst, aliases.ordered.nodup, fun name => ?_, ?_⟩
    · simp only [Aliases.get?_eq_some_iff, List.mem_map, Prod.exists, exists_and_right,
        exists_eq_right]
    · rw [List.length_map]
      rfl

end Host

end RootedRun
