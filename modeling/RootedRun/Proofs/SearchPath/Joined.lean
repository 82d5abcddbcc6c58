import RootedRun.Proofs.SearchPath.Places

namespace RootedRun

theorem Lookup.length_dirs (value : String) : (dirs value).length = value.toList.count ':' + 1 := by
  rw [dirs, List.length_map]
  induction value.toList with
  | nil => rfl
  | cons c cs ih =>
    simp only [List.splitOn_eq_splitOnP] at ih
    rw [List.splitOn_eq_splitOnP, List.splitOnP_cons_eq_if_modifyHead]
    by_cases hc : c = ':' <;> simp [hc, ih]

namespace SearchPath

theorem filter_dirs_joined (p : SearchPath) : (Lookup.dirs p.joined).filter (· ≠ "") = p.dirs := by
  by_cases hdirs : p.dirs = []
  · rw [dirs_joined_nil hdirs, hdirs]
    rfl
  · rw [dirs_joined hdirs, List.filter_eq_self]
    exact fun dir hdir => decide_eq_true (ne_blank_of_mem hdir)

theorem joined_inj {p q : SearchPath} : p.joined = q.joined ↔ p = q := by
  refine ⟨fun h => ext ?_, fun h => h ▸ rfl⟩
  rw [← filter_dirs_joined p, h, filter_dirs_joined]

theorem count_joined {p : SearchPath} (h : p.dirs ≠ []) :
    p.joined.toList.count ':' + 1 = p.dirs.length := by
  rw [← Lookup.length_dirs, dirs_joined h]

/-- What comes after the first bad entry plays no part. A list without entries is taken too, and no
other list has its value. -/
theorem ofList_lossless (dirs : List String) :
    let good (dir : String) := dir.toList.head? = some '/' ∧ ':' ∉ dir.toList
    ((∃ p, ofList dirs = .ok p) ↔ ∀ d ∈ dirs, good d) ∧
    (∀ e, ofList dirs = .error e ↔ ∃ front d back,
      dirs = front ++ d :: back ∧ (∀ c ∈ front, good c) ∧ ¬ good d ∧ e = .badEntry d) ∧
    ∀ p, ofList dirs = .ok p →
      p.dirs = dirs ∧
      (∀ dirs' p', ofList dirs' = .ok p' → p.joined = p'.joined → dirs = dirs') ∧
      (dirs ≠ [] → p.joined.toList.count ':' + 1 = dirs.length ∧
        (p.joined.toList.splitOn ':').map String.ofList = dirs) := by
  intro good
  refine ⟨exists_ofList_iff, fun e => ofList_eq_error_iff, fun p hp => ?_⟩
  obtain rfl := dirs_of_ofList hp
  refine ⟨rfl, fun dirs' p' hp' hjoined => ?_, fun hdirs => ⟨count_joined hdirs, dirs_joined hdirs⟩⟩
  rw [joined_inj.1 hjoined, dirs_of_ofList hp']

end SearchPath

end RootedRun
