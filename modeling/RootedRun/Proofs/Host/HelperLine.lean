import Mathlib.Data.List.TakeWhile
import RootedRun.Proofs.Host.Placement
import RootedRun.Tool.EnvLine

/-!
The line that ties a name to a search path, as the helper reads it. The helper takes words with an
equals sign for variables, up to the first word without one. Main statement: what is read is what
was asked for exactly if the name has no equals sign in it.
-/

namespace RootedRun

namespace Tool.EnvLine

def Change.bare : Change := { Change.none with emptied := true }

theorem setting?_isSome {word : String} : (setting? word).isSome ↔ '=' ∈ word.toList := by
  refine ⟨fun h => ?_, fun h => ?_⟩
  · apply Decidable.of_not_not
    intro hn
    rw [setting?_eq_none hn] at h
    cases h
  · have hne : word.toList.dropWhile (· ≠ '=') ≠ [] := by
      intro hnil
      simpa using List.dropWhile_eq_nil_iff.1 hnil '=' h
    obtain ⟨c, rest, hcons⟩ := List.exists_cons_of_ne_nil hne
    simp only [setting?, hcons, Option.isSome_some]

theorem setting?_path (value : String) : setting? ("PATH=" ++ value) = some ("PATH", value) := by
  simp [setting?, String.toList_append]

@[simp] theorem change_operands (change : Change) (vars : List (String × String))
    (words : List String) : (operands change vars words).change = change := by
  induction words generalizing vars with
  | nil => rfl
  | cons w ws ih =>
    rw [operands]
    cases setting? w with
    | none => rfl
    | some v => exact ih _

theorem utility_operands (change : Change) (vars : List (String × String)) (words : List String) :
    (operands change vars words).utility =
      match words.dropWhile fun w => '=' ∈ w.toList with
      | [] => none
      | w :: ws => some ⟨w, ws⟩ := by
  induction words generalizing vars with
  | nil => rfl
  | cons w ws ih =>
    by_cases hw : '=' ∈ w.toList
    · obtain ⟨v, hv⟩ := Option.isSome_iff_exists.1 (setting?_isSome.2 hw)
      simpa [operands, hv, hw] using ih _
    · simp [operands, setting?_eq_none hw, hw]

theorem not_mem_of_utility {change : Change} {vars : List (String × String)} {words : List String}
    {i : Invocation} (h : (operands change vars words).utility = some i) :
    '=' ∉ i.program.toList := by
  rw [utility_operands] at h
  have hhead := List.head?_dropWhile_not (fun w : String => decide ('=' ∈ w.toList)) words
  cases hdrop : words.dropWhile fun w => decide ('=' ∈ w.toList) with
  | nil =>
    rw [hdrop] at h
    cases h
  | cons w ws =>
    rw [hdrop] at h hhead
    cases h
    simpa using hhead

theorem switches_ignore (change : Change) (words : List String) :
    switches change ("-i" :: words) = switches { change with emptied := true } words := by
  have hi : Options.ofWord? rules.complete "-i" = some ([('i', none)], .whole) := by
    decide +kernel
  rw [switches, if_neg (by decide), hi]
  rfl

theorem switches_operand (change : Change) {word : String} (words : List String)
    (hne : word ≠ "--") (hw : Options.ofWord? rules.complete word = none) :
    switches change (word :: words) = .ok (change, .none, word :: words) := by
  rw [switches, if_neg hne, hw]

theorem readSwitches_of_switches {inherited : List (String × String)} {splits : Nat}
    {change change' : Change} {words rest : List String}
    (h : switches change words = .ok (change', .none, rest)) :
    readSwitches inherited splits change words = .ok (change', rest) := by
  cases splits <;> rw [readSwitches, h] <;> rfl

theorem read_path (inherited : List (String × String)) (value : String) (words : List String) :
    read inherited ("-i" :: ("PATH=" ++ value) :: words) =
      .ok (operands .bare [] (("PATH=" ++ value) :: words)) := by
  have hfirst : ("PATH=" ++ value).toList.head? = some 'P' := by simp [String.toList_append]
  have hne : "PATH=" ++ value ≠ "--" := by
    intro h
    rw [h] at hfirst
    cases hfirst
  have hhyphen : "PATH=" ++ value ≠ "-" := by
    intro h
    rw [h] at hfirst
    cases hfirst
  have hpath : Options.ofWord? rules.complete ("PATH=" ++ value) = none := by
    simp [Options.ofWord?, String.toList_append]
  have hswitches : switches .none ("-i" :: ("PATH=" ++ value) :: words) =
      .ok (.bare, .none, ("PATH=" ++ value) :: words) := by
    rw [switches_ignore]
    exact switches_operand .bare words hne hpath
  rw [read, readSwitches_of_switches hswitches]
  simp only [bind, Except.bind]
  split
  · next heq =>
    injection heq with _ hwords
    injection hwords with hword
    exact absurd hword hhyphen
  · next heq =>
    cases heq
    rfl

theorem vars_operands_path (value name : String) (args : List String) (hn : '=' ∉ name.toList) :
    (operands .bare [] (("PATH=" ++ value) :: name :: args)).vars = [("PATH", value)] := by
  simp [operands, setting?_path, setting?_eq_none hn, set]

end Tool.EnvLine

namespace Host

open Tool

variable {h : Host} {stat : Stat}

/-- The helper starts from nothing in any case; it sets only the search path and runs the command that
was asked for exactly if the name has no equals sign. Otherwise it takes the name for a variable and
runs the first argument that is none, if there is any. -/
theorem read_line_iff (inherited : List (String × String)) {name n : String} (args : List String)
    (hn : h.aliases.meaning name = n) (hq : '/' ∉ n.toList)
    (hp : ¬ ∃ e, stat (h.inRoot "/usr/bin/env") = .error e ∧ e.kind = .notFound) :
    let handed := ((h.qualify (h.rename ⟨name, args⟩).value).run stat).value
    handed.program = "/usr/bin/env" ∧
    ∃ line, EnvLine.read inherited handed.args = .ok line ∧
      line.change = { EnvLine.Change.none with emptied := true } ∧
      (line.vars = [("PATH", h.searchPath.joined)] ∧ line.utility = some ⟨n, args⟩ ↔
        '=' ∉ n.toList) ∧
      ('=' ∈ n.toList → line.utility = match args.dropWhile fun w => '=' ∈ w.toList with
        | [] => none
        | w :: ws => some ⟨w, ws⟩) := by
  intro handed
  have hhanded : handed =
      ⟨envHelper, "-i" :: ("PATH=" ++ h.searchPath.joined) :: n :: args⟩ := by
    simp only [handed, value_rename, hn]
    exact value_qualify_of_not_absent hq hp
  rw [hhanded]
  refine ⟨rfl, _, EnvLine.read_path .., EnvLine.change_operands .., ⟨?_, ?_⟩, ?_⟩
  · intro ⟨_, hutility⟩
    exact EnvLine.not_mem_of_utility hutility
  · intro hname
    refine ⟨EnvLine.vars_operands_path _ _ _ hname, ?_⟩
    simp [EnvLine.utility_operands, hname]
  · intro hname
    simp [EnvLine.utility_operands, hname]

/-- The name stands for a command that starts with a hyphen, and an argument has an equals sign. -/
theorem read_line_hyphen :
    let h : Host := ⟨.ofList [("t", "-i")], none, .standard⟩
    let stat : Stat := fun _ => .error (.os .permissionDenied)
    let handed := ((h.qualify (h.rename ⟨"t", ["A=b", "-c"]⟩).value).run stat).value
    h.aliases.meaning "t" = "-i" ∧ '/' ∉ "-i".toList ∧ ¬ stat.Absent "/usr/bin/env" ∧
    ∃ line, EnvLine.read [("HOME", "/root")] handed.args = .ok line ∧
      line.vars = [("PATH", "/usr/local/sbin:/usr/local/bin:/usr/sbin:/usr/bin:/sbin:/bin")] ∧
      line.utility = some ⟨"-i", ["A=b", "-c"]⟩ := by
  intro h stat handed
  have hn : h.aliases.meaning "t" = "-i" := by decide +kernel
  have hq : '/' ∉ "-i".toList := by decide
  have hp : ¬ stat.Absent (h.inRoot "/usr/bin/env") := by
    rintro ⟨_, hfail, hkind⟩
    cases hfail
    cases hkind
  obtain ⟨-, line, hline, -, hmeant, -⟩ :=
    read_line_iff [("HOME", "/root")] ["A=b", "-c"] hn hq hp
  obtain ⟨hvars, hutility⟩ := hmeant.2 (by decide)
  exact ⟨hn, hq, hp, line, hline, hvars, hutility⟩

/-- A name with an equals sign is taken for a variable, and its first argument is run. -/
theorem name_taken_for_variable :
    let h : Host := ⟨.empty, none, .standard⟩
    let handed := ((h.qualify (h.rename ⟨"A=b", ["sh", "-c", "exit 3"]⟩).value).run
      fun _ => .ok .other).value
    handed.program = "/usr/bin/env" ∧
    ∃ line, EnvLine.read [] handed.args = .ok line ∧
      line.vars = [("PATH", h.searchPath.joined), ("A", "b")] ∧
      line.utility = some ⟨"sh", ["-c", "exit 3"]⟩ ∧
      ¬ (line.vars = [("PATH", h.searchPath.joined)] ∧
        line.utility = some ⟨"A=b", ["sh", "-c", "exit 3"]⟩) := by
  refine ⟨by decide +kernel, _, EnvLine.read_path .., by decide +kernel, by decide +kernel, ?_⟩
  decide +kernel

end Host

end RootedRun
