import RootedRun.Host.Session
import RootedRun.Proofs.Host.Placement
import RootedRun.Proofs.Host.Trail

/-!
What a command looks at on its way down a stack. Main statement: a host looks for the helper and,
where that is missing, at its candidates up to the first that is there, and at nothing for a name
that is a path; and a file system that gives the same answers to these looks gives the same call and
the same events, whatever else it holds.
-/

namespace RootedRun

theorem Query.answer_congr {stat stat' : Stat} {q : Query}
    (hm : ∀ path, q = .missing path → (stat.Absent path ↔ stat'.Absent path))
    (hr : ∀ path, q = .reachable path → (stat.Found path ↔ stat'.Found path)) :
    q.answer stat = q.answer stat' := by
  cases q with
  | missing path =>
    rw [Bool.eq_iff_iff, answer, answer, Stat.missing_eq_true, Stat.missing_eq_true]
    exact hm path rfl
  | reachable path =>
    rw [Bool.eq_iff_iff, answer, answer, Stat.succeeds_eq_true, Stat.succeeds_eq_true]
    exact hr path rfl

namespace Host

variable {h : Host} {stat : Stat}

theorem asked_prepare {i : Invocation} :
    (h.prepare i).asked stat = (h.place (h.aliases.meaning i.program)).asked stat := by
  rw [prepare, qualify, Probe.asked_map, Probe.asked_map, value_rename]

theorem asked_place_of_qualified {name : String} (hq : Qualified name) :
    (h.place name).asked stat = [] := by
  rw [place, if_pos hq, Probe.asked]

theorem asked_place_of_not_absent {name : String} (hq : ¬ Qualified name)
    (hp : ¬ stat.Absent (h.inRoot envHelper)) :
    (h.place name).asked stat = [.missing (h.inRoot envHelper)] := by
  have hm : stat.missing (h.inRoot envHelper) = false := by
    rwa [← Bool.not_eq_true, Stat.missing_eq_true]
  simp [place, hq, Probe.asked, Query.answer, hm]

theorem asked_place_cases (h : Host) (stat : Stat) (name : String) :
    (Qualified name ∧ (h.place name).asked stat = []) ∨
    (¬ Qualified name ∧ ¬ stat.Absent (h.inRoot envHelper) ∧
      (h.place name).asked stat = [.missing (h.inRoot envHelper)]) ∨
    (¬ Qualified name ∧ stat.Absent (h.inRoot envHelper) ∧
      (h.place name).asked stat = .missing (h.inRoot envHelper) ::
        (h.looked stat (h.searchPath.candidates name)).map fun c => .reachable (h.inRoot c)) := by
  by_cases hq : Qualified name
  · exact .inl ⟨hq, asked_place_of_qualified hq⟩
  · by_cases ha : stat.Absent (h.inRoot envHelper)
    · refine .inr (.inr ⟨hq, ha, ?_⟩)
      rw [asked_place_of_absent hq ha, asked_search]
    · exact .inr (.inl ⟨hq, ha, asked_place_of_not_absent hq ha⟩)

theorem looked_of_found {front back : List String} {c : String} (hc : stat.Found (h.inRoot c))
    (hfront : ∀ d ∈ front, stat.Failed (h.inRoot d)) :
    h.looked stat (front ++ c :: back) = front ++ [c] := by
  induction front with
  | nil => simp [looked, Stat.succeeds_eq_true.2 hc]
  | cons d front ih =>
    obtain ⟨hd, hrest⟩ := List.forall_mem_cons.1 hfront
    simpa [looked, Stat.succeeds_eq_false.2 hd] using ih hrest

theorem looked_cases (h : Host) (stat : Stat) (cs : List String) :
    (∃ front c back, cs = front ++ c :: back ∧ h.looked stat cs = front ++ [c] ∧
      stat.Found (h.inRoot c) ∧ ∀ d ∈ front, stat.Failed (h.inRoot d)) ∨
    (h.looked stat cs = cs ∧ ∀ d ∈ cs, stat.Failed (h.inRoot d)) := by
  cases hrun : (h.search cs).run stat with
  | explicit => exact absurd hrun run_search_ne_explicit
  | pinned => exact absurd hrun run_search_ne_pinned
  | found c =>
    obtain ⟨front, back, rfl, hc, hfront⟩ := run_search_eq_found.1 hrun
    exact .inl ⟨front, c, back, rfl, looked_of_found hc hfront, hc, hfront⟩
  | unresolved =>
    have hcs := run_search_eq_unresolved.1 hrun
    exact .inr ⟨looked_of_failed hcs, hcs⟩

end Host

namespace Session

/-- The files count only by the answers to what is looked at: whether a helper is missing and whether
a candidate is there. -/
theorem command_looks (s : Session) (i : Invocation) (token : Option Token) :
    let stack : Stack := s.host :: s.below
    let asked := (Stack.prepare stack i).asked s.stat
    asked = (stack.trail s.stat i).flatMap (fun (h, j) => (h.prepare j).asked s.stat) ∧
    (∀ l ∈ stack.trail s.stat i,
      let h := l.1
      let n := h.aliases.meaning l.2.program
      let seen (path : String) := match h.root with
        | none => path
        | some root => root ++ path
      let missing := ∃ e, s.stat (seen "/usr/bin/env") = .error e ∧ e.kind = .notFound
      let candidates := h.searchPath.dirs.map fun dir => SearchPath.trimSlashes dir ++ "/" ++ n
      let own := (h.prepare l.2).asked s.stat
      ('/' ∈ n.toList ∧ own = []) ∨
      ('/' ∉ n.toList ∧ ¬ missing ∧ own = [.missing (seen "/usr/bin/env")]) ∨
      ('/' ∉ n.toList ∧ missing ∧ ∃ probed,
        own = .missing (seen "/usr/bin/env") :: probed.map (fun c => .reachable (seen c)) ∧
        ((∃ front c back, candidates = front ++ c :: back ∧ probed = front ++ [c] ∧
            (∃ t, s.stat (seen c) = .ok t) ∧ ∀ d ∈ front, ∃ e, s.stat (seen d) = .error e) ∨
          (probed = candidates ∧ ∀ d ∈ candidates, ∃ e, s.stat (seen d) = .error e)))) ∧
    ∀ stat' : Stat,
      (∀ path, .missing path ∈ asked →
        ((∃ e, s.stat path = .error e ∧ e.kind = .notFound) ↔
          ∃ e, stat' path = .error e ∧ e.kind = .notFound)) →
      (∀ path, .reachable path ∈ asked →
        ((∃ t, s.stat path = .ok t) ↔ ∃ t, stat' path = .ok t)) →
      let s' := (s.step (.files stat')).1
      (s'.step (.command i token)).1.calls = (s.step (.command i token)).1.calls ∧
      (s'.step (.command i token)).2 = (s.step (.command i token)).2 ∧
      (Stack.prepare stack i).asked stat' = asked := by
  intro stack asked
  refine ⟨Stack.asked_prepare .., ?_, fun stat' hm hr => ?_⟩
  · rintro ⟨h, j⟩ -
    rcases h.asked_place_cases s.stat (h.aliases.meaning j.program) with
      ⟨hq, hown⟩ | ⟨hq, hp, hown⟩ | ⟨hq, ha, hown⟩
    · exact .inl ⟨hq, Host.asked_prepare.trans hown⟩
    · exact .inr (.inl ⟨hq, hp, Host.asked_prepare.trans hown⟩)
    · exact .inr (.inr ⟨hq, ha, _, Host.asked_prepare.trans hown, h.looked_cases s.stat _⟩)
  · -- the two file systems are only asked what the first run asks, and answer that alike
    have hanswers : ∀ q ∈ asked, q.answer s.stat = q.answer stat' := fun q hq =>
      Query.answer_congr (fun path h => hm path (h ▸ hq)) fun path h => hr path (h ▸ hq)
    obtain ⟨hrun, hasked⟩ := Probe.run_congr hanswers
    refine ⟨?_, ?_, hasked.symm⟩
    · simp only [step, deliver, hrun, stack]
    · simp only [step, deliver, hrun, stack]

/-- Two hosts, where the inner one gives another meaning to what the outer one makes. The second file
system has other types and other errors at what is looked at, and everything where nothing was. -/
theorem command_looks_other_files :
    let host : Host := ⟨.ofList [("t", "tool")], some "/a", ⟨["/opt/", "/bin", "/sbin"], by decide⟩⟩
    let inner : Host := ⟨.ofList [("/usr/sbin/chroot", "enter")], none, ⟨["/bin"], by decide⟩⟩
    let stat : Stat := fun path =>
      if path = "/a/opt/tool" then .error (.os .permissionDenied)
      else if path = "/a/bin/tool" ∨ path = "/usr/bin/env" then .ok .other
      else .error (.os .notFound)
    let stat' : Stat := fun path =>
      if path = "/a/usr/bin/env" then .error (.os .notFound)
      else if path = "/a/opt/tool" then .error (.os .linkLoop)
      else if path = "/usr/bin/env" then .error (.os .permissionDenied)
      else .ok .directory
    let s := Session.start host [inner] stat
    let i : Invocation := ⟨"t", ["-v"]⟩
    (Stack.prepare [host, inner] i).asked stat =
      [.missing "/a/usr/bin/env", .reachable "/a/opt/tool", .reachable "/a/bin/tool",
        .missing "/usr/bin/env"] ∧
    (stat.Absent "/a/usr/bin/env" ↔ stat'.Absent "/a/usr/bin/env") ∧
    (stat.Absent "/usr/bin/env" ↔ stat'.Absent "/usr/bin/env") ∧
    (stat.Found "/a/opt/tool" ↔ stat'.Found "/a/opt/tool") ∧
    (stat.Found "/a/bin/tool" ↔ stat'.Found "/a/bin/tool") ∧
    ((s.step (.files stat')).1.step (.command i none)).1.calls =
      [⟨⟨"/usr/bin/env", ["-i", "PATH=/bin", "enter", "/a", "/bin/tool", "-v"]⟩, none⟩] := by
  intro host inner stat stat' s i
  have hasked : (Stack.prepare [host, inner] i).asked stat =
      [.missing "/a/usr/bin/env", .reachable "/a/opt/tool", .reachable "/a/bin/tool",
        .missing "/usr/bin/env"] := by decide +kernel
  have habsent (path : String) (h : stat.missing path = stat'.missing path) :
      stat.Absent path ↔ stat'.Absent path := by
    rw [← Stat.missing_eq_true, ← Stat.missing_eq_true, h]
  have hfound (path : String) (h : stat.succeeds path = stat'.succeeds path) :
      stat.Found path ↔ stat'.Found path := by
    rw [← Stat.succeeds_eq_true, ← Stat.succeeds_eq_true, h]
  have henv := habsent "/a/usr/bin/env" (by decide +kernel)
  have henv' := habsent "/usr/bin/env" (by decide +kernel)
  have hopt := hfound "/a/opt/tool" (by decide +kernel)
  have hbin := hfound "/a/bin/tool" (by decide +kernel)
  refine ⟨hasked, henv, henv', hopt, hbin, ?_⟩
  obtain ⟨-, -, hcongr⟩ := command_looks s i none
  refine (hcongr stat' ?_ ?_).1.trans (by decide +kernel)
  · intro path hpath
    rw [show (Stack.prepare (s.host :: s.below) i).asked s.stat = _ from hasked] at hpath
    simp only [List.mem_cons, Query.missing.injEq, reduceCtorEq, List.not_mem_nil, or_false,
      false_or] at hpath
    rcases hpath with rfl | rfl
    · exact henv
    · exact henv'
  · intro path hpath
    rw [show (Stack.prepare (s.host :: s.below) i).asked s.stat = _ from hasked] at hpath
    simp only [List.mem_cons, Query.reachable.injEq, reduceCtorEq, List.not_mem_nil, or_false,
      false_or] at hpath
    rcases hpath with rfl | rfl
    · exact hopt
    · exact hbin

end Session

end RootedRun
