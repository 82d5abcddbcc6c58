import RootedRun.Host.Session

/-!
Commands that are paths already on their way down a stack. A host that has no other meaning for such
a command only confines it, and what it makes of the command is a path again, so the same holds of
the host below. Main statement: the words that reach the runner are the roots below, innermost
first, and then the words of the outermost host.
-/

namespace RootedRun

namespace Host

theorem rename_of_not_resolve {h : Host} {i : Invocation} (hr : h.aliases.resolve i.program = none) :
    h.rename i = .quiet i := by
  simp [rename, hr]

theorem qualify_of_qualified {h : Host} {i : Invocation} (hq : Qualified i.program) :
    h.qualify i = .done (.quiet i) := by
  simp [qualify, place, hq, Probe.map, Probe.bind, Placement.events, settle, Logged.quiet]

theorem prepare_of_qualified {h : Host} {i : Invocation} (hq : Qualified i.program)
    (hr : h.aliases.resolve i.program = none) : h.prepare i = .done (h.confine i) := by
  simp [prepare, rename_of_not_resolve hr, qualify_of_qualified hq, Logged.quiet, Probe.map,
    Probe.bind, Logged.bind]

theorem words_confine (h : Host) (i : Invocation) :
    (h.confine i).value.words = (h.root.toList.flatMap fun root => [chrootProgram, root]) ++ i.words := by
  unfold confine
  cases h.root <;> rfl

theorem qualified_confine {h : Host} {i : Invocation} (hq : Qualified i.program) :
    Qualified (h.confine i).value.program := by
  unfold confine
  cases h.root with
  | none => exact hq
  | some root => exact qualified_chrootProgram

end Host

namespace Stack

/-- No host of the stack has another command stand for this one. -/
def Leaves (below : Stack) (name : String) : Prop :=
  ∀ m ∈ below.map Host.aliases, m.resolve name = none

def confine : Stack → Invocation → Logged Invocation
  | [], i => .quiet i
  | h :: below, i => (h.confine i).bind (confine below)

theorem leaves_confine {h : Host} {below : Stack} {i : Invocation}
    (hp : Leaves below i.program) (hc : Leaves below chrootProgram) :
    Leaves below (h.confine i).value.program := by
  unfold Host.confine
  cases h.root with
  | none => exact hp
  | some root => exact hc

theorem prepare_eq_confine {below : Stack} {i : Invocation} (hq : Qualified i.program)
    (hp : below.Leaves i.program) (hc : below.Leaves chrootProgram) :
    Stack.prepare below i = .done (below.confine i) := by
  induction below generalizing i with
  | nil => rfl
  | cons h below ih =>
    have ⟨hph, hpb⟩ := List.forall_mem_cons.1 hp
    have ⟨_, hcb⟩ := List.forall_mem_cons.1 hc
    rw [Stack.prepare, Host.prepare_of_qualified hq hph]
    simp only [Probe.bind]
    rw [ih (Host.qualified_confine hq) (leaves_confine hpb hcb) hcb]
    rfl

theorem words_confine (below : Stack) (i : Invocation) :
    (below.confine i).value.words =
      ((below.reverse.filterMap Host.root).flatMap fun root => [chrootProgram, root]) ++ i.words := by
  induction below generalizing i with
  | nil => rfl
  | cons h below ih =>
    rw [confine, Logged.bind, ih, Host.words_confine]
    cases hroot : h.root <;> simp [hroot]

theorem confine_congr {below below' : Stack} (h : below'.map Host.root = below.map Host.root)
    (i : Invocation) : below'.confine i = below.confine i := by
  induction below generalizing below' i with
  | nil =>
    cases List.map_eq_nil_iff.1 h
    rfl
  | cons g below ih =>
    obtain ⟨g', below', rfl, hroot, hrest⟩ := List.map_eq_cons_iff.1 h
    have hconfine : g'.confine i = g.confine i := by simp only [Host.confine, hroot]
    simp only [confine, hconfine, Logged.bind, ih hrest]

end Stack

namespace Session

theorem calls_command (s : Session) (i : Invocation) (token : Option Token) :
    (s.step (.command i token)).1.calls =
      s.calls ++ [⟨((Stack.prepare (s.host :: s.below) i).run s.stat).value, token⟩] := rfl

/-- The inner hosts look at nothing, and neither the file system nor their search paths count. -/
theorem command_words (s : Session) (i : Invocation) (token : Option Token) {outer : Invocation}
    (houter : ((s.host.prepare i).run s.stat).value = outer) (hq : '/' ∈ outer.program.toList)
    (hp : ∀ g ∈ s.below, g.aliases.resolve outer.program = none)
    (hc : ∀ g ∈ s.below, g.aliases.resolve "/usr/sbin/chroot" = none) :
    ∃ reached : Invocation,
      (s.step (.command i token)).1.calls = s.calls ++ [⟨reached, token⟩] ∧
      reached.program :: reached.args =
        ((s.below.reverse.filterMap Host.root).flatMap fun root => ["/usr/sbin/chroot", root])
          ++ outer.program :: outer.args ∧
      (Stack.prepare (s.host :: s.below) i).asked s.stat = (s.host.prepare i).asked s.stat ∧
      ∀ (stat : Stat) (below : Stack), below.map Host.aliases = s.below.map Host.aliases →
        below.map Host.root = s.below.map Host.root →
        (Stack.prepare below outer).asked stat = [] ∧
        ((Stack.prepare below outer).run stat).value = reached := by
  have hp' : Stack.Leaves s.below outer.program := List.forall_mem_map.2 hp
  have hc' : Stack.Leaves s.below chrootProgram := List.forall_mem_map.2 hc
  have hdone := Stack.prepare_eq_confine hq hp' hc'
  refine ⟨(Stack.confine s.below outer).value, ?_, Stack.words_confine s.below outer, ?_, ?_⟩
  · rw [calls_command, Stack.run_prepare_cons]
    simp only [Logged.bind, houter, hdone, Probe.run]
  · simp only [Stack.prepare, Probe.asked_bind, Probe.asked_map, houter, hdone, Probe.asked,
      List.append_nil]
  · intro stat below haliases hroots
    have hdone' : Stack.prepare below outer = .done (Stack.confine s.below outer) := by
      rw [← Stack.confine_congr hroots]
      apply Stack.prepare_eq_confine hq
      · rwa [Stack.Leaves, haliases]
      · rwa [Stack.Leaves, haliases]
    rw [hdone']
    exact ⟨rfl, rfl⟩

/-- Four hosts deep, one of them without a root, where other names and a blank one stand for
something. -/
theorem command_words_four_deep :
    let blank : Aliases := .ofList [("tool", "other"), ("/bin/tool", "")]
    let inner (root : Option String) : Host := ⟨blank, root, .standard⟩
    let host : Host := ⟨.ofList [("t", "tool")], some "/a", .standard⟩
    let s := Session.start host [inner (some "/b"), inner none, inner (some "/c")]
      fun path => if path = "/a/bin/tool" then .ok .other else .error (.os .notFound)
    let outer : Invocation := ⟨"/usr/sbin/chroot", ["/a", "/bin/tool", "-v"]⟩
    ((s.host.prepare ⟨"t", ["-v"]⟩).run s.stat).value = outer ∧
    (∀ g ∈ s.below, g.aliases.resolve "/usr/sbin/chroot" = none) ∧
    ∃ reached : Invocation,
      (s.step (.command ⟨"t", ["-v"]⟩ (some ⟨0⟩))).1.calls = [⟨reached, some ⟨0⟩⟩] ∧
      reached.program :: reached.args = ["/usr/sbin/chroot", "/c", "/usr/sbin/chroot", "/b",
        "/usr/sbin/chroot", "/a", "/bin/tool", "-v"] := by
  intro blank inner host s outer
  have houter : ((s.host.prepare ⟨"t", ["-v"]⟩).run s.stat).value = outer := by decide +kernel
  have hc : ∀ g ∈ s.below, g.aliases.resolve "/usr/sbin/chroot" = none := by decide +kernel
  obtain ⟨reached, hcalls, hwords, -⟩ :=
    command_words s ⟨"t", ["-v"]⟩ (some ⟨0⟩) houter (by decide) hc hc
  exact ⟨houter, hc, reached, hcalls, hwords⟩

end Session

end RootedRun
