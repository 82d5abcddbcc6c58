import RootedRun.Host.Replay
import RootedRun.Host.Session
import RootedRun.Proofs.Host.Placement
import RootedRun.Proofs.Host.Trail

namespace RootedRun

namespace Host

variable (h : Host) (stat : Stat)

/-! ### The lines of each step -/

theorem lines_rename (i : Invocation) :
    (h.rename i).events.map Event.line =
      match h.aliases.get? i.program with
      | none => []
      | some target =>
        if target = "" then []
        else [⟨.debug, "command remapped",
          [("name", .text i.program), ("target", .text target)]⟩] := by
  unfold rename Aliases.resolve
  cases h.aliases.get? i.program with
  | none => rfl
  | some target =>
    by_cases hblank : target = ""
    · simp [Option.filter, hblank, Logged.quiet]
    · simp only [Option.filter, ne_eq, hblank, not_false_eq_true, decide_true, if_true, if_false]
      rfl

theorem lines_placement (name : String) (placement : Placement) :
    (placement.events name).map Event.line =
      match placement with
      | .explicit => []
      | .pinned => [⟨.debug, "pinning PATH through env helper",
          [("name", .text name), ("helper", .text envHelper)]⟩]
      | .found path => [⟨.debug, "env helper missing, found command on search path",
          [("name", .text name), ("path", .text path)]⟩]
      | .unresolved =>
        [⟨.debug, "command not found on search path, passing through unqualified",
          [("name", .text name)]⟩] := by
  cases placement <;> rfl

theorem lines_confine (i : Invocation) :
    (h.confine i).events.map Event.line =
      match h.root with
      | none => []
      | some root => [⟨.debug, "wrapping command in chroot",
          [("root", .text root), ("program", .text i.program)]⟩] := by
  unfold confine
  cases h.root <;> rfl

/-! ### All three steps -/

theorem events_qualify (i : Invocation) :
    ((h.qualify i).run stat).events = ((h.place i.program).run stat).events i.program := by
  simp [qualify]

theorem events_prepare (i : Invocation) :
    ((h.prepare i).run stat).events =
      (h.rename i).events ++ ((h.qualify (h.rename i).value).run stat).events ++
        (h.confine ((h.qualify (h.rename i).value).run stat).value).events := by
  simp [prepare, Logged.bind]

theorem replay_prepare (i : Invocation) :
    replay h.searchPath ((h.prepare i).run stat).events i = ((h.prepare i).run stat).value := by
  -- each step is replayed on what the steps before it have made of the command
  have hqualify (j : Invocation) :
      replay h.searchPath ((h.qualify j).run stat).events j = ((h.qualify j).run stat).value := by
    rw [events_qualify, value_qualify, replay_settle]
  rw [events_prepare, value_prepare, replay_append, replay_append, replay_rename, hqualify,
    replay_confine]

end Host

/-- The first part is about one host, the second about a command on its way down a stack, with or
without a token. -/
theorem log_exact :
    (∀ (h : Host) (stat : Stat) (name : String) (args : List String),
      let n := h.aliases.meaning name
      let placement := (h.place n).run stat
      let qualified := ((h.qualify ⟨n, args⟩).run stat).value
      let prepared := (h.prepare ⟨name, args⟩).run stat
      let log := prepared.events.map Event.line
      log =
        (match h.aliases.get? name with
          | none => []
          | some target =>
            if target = "" then []
            else [⟨.debug, "command remapped",
              [("name", .text name), ("target", .text target)]⟩]) ++
        (match placement with
          | .explicit => []
          | .pinned => [⟨.debug, "pinning PATH through env helper",
              [("name", .text n), ("helper", .text "/usr/bin/env")]⟩]
          | .found path => [⟨.debug, "env helper missing, found command on search path",
              [("name", .text n), ("path", .text path)]⟩]
          | .unresolved =>
            [⟨.debug, "command not found on search path, passing through unqualified",
              [("name", .text n)]⟩]) ++
        (match h.root with
          | none => []
          | some root => [⟨.debug, "wrapping command in chroot",
              [("root", .text root), ("program", .text qualified.program)]⟩]) ∧
      (placement = .explicit ↔ '/' ∈ n.toList) ∧
      log.foldlM (Event.Line.replay h.searchPath) ⟨name, args⟩ = some prepared.value) ∧
    ∀ (s : Session) (i : Invocation) (token : Option Token),
      let stack : Stack := s.host :: s.below
      let trail := stack.trail s.stat i
      (s.step (.command i token)).2.events =
        trail.flatMap (fun (h, j) => ((h.prepare j).run s.stat).events) ∧
      trail.map Prod.fst = stack ∧
      trail.head? = some (s.host, i) ∧
      trail.IsChain fun (h, j) (_, next) => next = ((h.prepare j).run s.stat).value := by
  refine ⟨fun h stat name args => ⟨?_, Host.run_place_eq_explicit, ?_⟩, fun s i token => ?_⟩
  · simp only [Host.events_prepare, Host.value_rename, Host.events_qualify, List.map_append,
      Host.lines_rename, Host.lines_placement, Host.lines_confine]
    rfl
  · rw [Host.foldlM_replay_line, Host.replay_prepare]
  · exact ⟨Stack.events_prepare .., Stack.map_fst_trail .., rfl, Stack.isChain_trail ..⟩

end RootedRun
