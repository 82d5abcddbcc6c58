import Mathlib.Data.List.DropRight
import RootedRun.Invocation
import RootedRun.SearchPath

namespace RootedRun

theorem Path.append_slash_inj {front back front' back' : List Char} (h : '/' ∉ back)
    (h' : '/' ∉ back') :
    front ++ '/' :: back = front' ++ '/' :: back' ↔ front = front' ∧ back = back' := by
  constructor
  · intro heq
    -- of two fronts of different length the longer one has its slash in the back of the other
    rcases List.append_eq_append_iff.1 heq with ⟨mid, rfl, hmid⟩ | ⟨mid, rfl, hmid⟩
    · cases mid with
      | nil => simpa using hmid
      | cons c mid =>
        obtain ⟨-, rfl⟩ := List.cons.inj hmid
        exact absurd (List.mem_append_right mid List.mem_cons_self) h
    · cases mid with
      | nil => simpa using hmid.symm
      | cons c mid =>
        obtain ⟨-, rfl⟩ := List.cons.inj hmid
        exact absurd (List.mem_append_right mid List.mem_cons_self) h'
  · rintro ⟨rfl, rfl⟩
    rfl

namespace SearchPath

variable {dir dir' name name' path : String}

/-! ### Directories without their last slashes -/

theorem toList_trimSlashes (dir : String) :
    (trimSlashes dir).toList = dir.toList.rdropWhile (· = '/') := by
  simp [trimSlashes, List.rdropWhile]

theorem toList_eq_trimSlashes_append (dir : String) :
    ∃ n, dir.toList = (trimSlashes dir).toList ++ List.replicate n '/' := by
  refine ⟨(dir.toList.rtakeWhile (· = '/')).length, ?_⟩
  have hslashes : dir.toList.rtakeWhile (· = '/') =
      List.replicate (dir.toList.rtakeWhile (· = '/')).length '/' := by
    refine List.eq_replicate_iff.2 ⟨rfl, fun c hc => ?_⟩
    simpa using List.mem_rtakeWhile_imp hc
  rw [toList_trimSlashes, ← hslashes]
  exact (List.rdropWhile_append_rtakeWhile ..).symm

theorem rdropWhile_slash_eq_self_iff {cs : List Char} :
    cs.rdropWhile (· = '/') = cs ↔ cs.getLast? ≠ some '/' := by
  rw [List.rdropWhile_eq_self_iff]
  cases cs with
  | nil => simp
  | cons c cs => simp [List.getLast?_eq_some_getLast]

theorem getLast?_trimSlashes (dir : String) : (trimSlashes dir).toList.getLast? ≠ some '/' := by
  rw [toList_trimSlashes, ← rdropWhile_slash_eq_self_iff, List.rdropWhile_idempotent]

theorem trimSlashes_eq_iff {bare : String} :
    trimSlashes dir = bare ↔
      (∃ n, dir.toList = bare.toList ++ List.replicate n '/') ∧ bare.toList.getLast? ≠ some '/' := by
  constructor
  · rintro rfl
    exact ⟨toList_eq_trimSlashes_append dir, getLast?_trimSlashes dir⟩
  · rintro ⟨⟨n, hdir⟩, hlast⟩
    rw [← String.toList_inj, toList_trimSlashes, hdir]
    clear hdir
    induction n with
    | zero => rwa [List.replicate_zero, List.append_nil, rdropWhile_slash_eq_self_iff]
    | succ n ih =>
      rwa [List.replicate_succ', ← List.append_assoc, List.rdropWhile_concat_pos]
      rfl

theorem trimSlashes_eq_blank_iff : trimSlashes dir = "" ↔ ∀ c ∈ dir.toList, c = '/' := by
  rw [← String.toList_inj, toList_trimSlashes]
  simp

/-! ### Places for a name -/

theorem toList_location (dir name : String) :
    (location dir name).toList = (trimSlashes dir).toList ++ '/' :: name.toList := by
  simp [location]

theorem qualified_location (dir name : String) : Qualified (location dir name) := by
  simp [Qualified, location]

theorem head?_location (h : dir.toList.head? = some '/') (name : String) :
    (location dir name).toList.head? = some '/' := by
  obtain ⟨n, hdir⟩ := toList_eq_trimSlashes_append dir
  rw [toList_location]
  cases htrim : (trimSlashes dir).toList with
  | nil => rfl
  | cons c cs =>
    rw [hdir, htrim] at h
    exact h

theorem location_eq_iff :
    location dir name = path ↔ ∃ (bare : String) (k : Nat),
      dir.toList = bare.toList ++ List.replicate k '/' ∧ bare.toList.getLast? ≠ some '/' ∧
        path = bare ++ "/" ++ name := by
  constructor
  · rintro rfl
    obtain ⟨k, hdir⟩ := toList_eq_trimSlashes_append dir
    exact ⟨trimSlashes dir, k, hdir, getLast?_trimSlashes dir, rfl⟩
  · rintro ⟨bare, k, hdir, hlast, rfl⟩
    rw [location, trimSlashes_eq_iff.2 ⟨⟨k, hdir⟩, hlast⟩]

theorem location_eq_append_iff {front back : String} (hname : '/' ∉ name.toList)
    (hback : '/' ∉ back.toList) :
    location dir name = front ++ "/" ++ back ↔ front = trimSlashes dir ∧ back = name := by
  have hlist : (front ++ "/" ++ back).toList = front.toList ++ '/' :: back.toList := by simp
  rw [← String.toList_inj, toList_location, hlist, Path.append_slash_inj hname hback,
    String.toList_inj, String.toList_inj]
  exact and_congr eq_comm eq_comm

theorem location_of_slashes (h : ∀ c ∈ dir.toList, c = '/') : location dir name = "/" ++ name := by
  rw [location, trimSlashes_eq_blank_iff.2 h, String.empty_append]

theorem location_left_inj :
    location dir name = location dir' name ↔ trimSlashes dir = trimSlashes dir' := by
  simp [location]

theorem location_right_inj : location dir name = location dir name' ↔ name = name' := by
  simp [location]

end SearchPath

end RootedRun
