import RootedRun.Error

/-!
Ordered lists of absolute directories to look for commands in. The same list is written as the
value of `PATH` and walked directory by directory, and both ways see the same places.
-/

namespace RootedRun

/-- An absolute directory; a colon would cut it in two once it is part of a `PATH` value. -/
def SearchPath.IsEntry (dir : String) : Prop := dir.toList.head? = some '/' ∧ ':' ∉ dir.toList

instance (dir : String) : Decidable (SearchPath.IsEntry dir) :=
  inferInstanceAs (Decidable (_ ∧ _))

structure SearchPath where
  dirs : List String
  valid : ∀ d ∈ dirs, SearchPath.IsEntry d
  deriving DecidableEq

namespace SearchPath

def standard : SearchPath where
  dirs := ["/usr/local/sbin", "/usr/local/bin", "/usr/sbin", "/usr/bin", "/sbin", "/bin"]
  valid := by decide

instance : Inhabited SearchPath := ⟨standard⟩

/-- Fails with the first entry that cannot be part of a search path. -/
def ofList (dirs : List String) : Except SetupError SearchPath :=
  match h : dirs.find? (¬ IsEntry ·) with
  | some d => .error (.badEntry d)
  | none => .ok ⟨dirs, by simpa using h⟩

def joined (p : SearchPath) : String := String.intercalate ":" p.dirs

def trimSlashes (dir : String) : String :=
  String.ofList (dir.toList.reverse.dropWhile (· = '/')).reverse

def location (dir name : String) : String := trimSlashes dir ++ "/" ++ name

def candidates (p : SearchPath) (name : String) : List String :=
  p.dirs.map (location · name)

@[ext] theorem ext {p q : SearchPath} (h : p.dirs = q.dirs) : p = q := by
  cases p; cases q; simp_all

theorem ofList_dirs (p : SearchPath) : ofList p.dirs = .ok p := by
  unfold ofList
  split
  · next d h =>
    exact absurd (p.valid d (List.mem_of_find?_eq_some h)) (by simpa using List.find?_some h)
  · rfl

theorem dirs_of_ofList {dirs : List String} {p : SearchPath} (h : ofList dirs = .ok p) :
    p.dirs = dirs := by
  unfold ofList at h
  split at h
  · cases h
  · cases h; rfl

theorem ofList_eq_ok_iff {dirs : List String} {p : SearchPath} :
    ofList dirs = .ok p ↔ p.dirs = dirs :=
  ⟨dirs_of_ofList, fun h => h ▸ ofList_dirs p⟩

theorem ofList_eq_error_iff {dirs : List String} {e : SetupError} :
    ofList dirs = .error e ↔
      ∃ front d back, dirs = front ++ d :: back ∧ (∀ c ∈ front, IsEntry c) ∧ ¬ IsEntry d ∧
        e = .badEntry d := by
  constructor
  · intro h
    unfold ofList at h
    split at h
    · next d hfind =>
      cases h
      obtain ⟨hd, front, back, hdirs, hfront⟩ := List.find?_eq_some_iff_append.1 hfind
      exact ⟨front, d, back, hdirs, by simpa using hfront, by simpa using hd, rfl⟩
    · cases h
  · rintro ⟨front, d, back, rfl, hfront, hd, rfl⟩
    have hfind : (front ++ d :: back).find? (¬ IsEntry ·) = some d :=
      List.find?_eq_some_iff_append.2 ⟨by simpa using hd, front, back, rfl, by simpa using hfront⟩
    unfold ofList
    split
    · next d' h =>
      rw [hfind] at h
      cases h
      rfl
    · next h =>
      rw [hfind] at h
      cases h

theorem exists_ofList_iff {dirs : List String} :
    (∃ p, ofList dirs = .ok p) ↔ ∀ d ∈ dirs, IsEntry d := by
  simp only [ofList_eq_ok_iff]
  exact ⟨fun ⟨p, hp⟩ => hp ▸ p.valid, fun h => ⟨⟨dirs, h⟩, rfl⟩⟩

end SearchPath

end RootedRun
