import RootedRun.Job.Session

/-!
The end of a child against the cancelling of its token. Main statement: in every order of events,
what is returned is the child's own end, the failure to start it or to kill it, or that the token
was cancelled, and in the last case nothing of the child runs on. Nobody waits for anything but a
running child whose token stands; in a captured run that is for the end of its output too, and
`childEnds` stands for both.
-/

namespace RootedRun.Watch

/-- What whoever waits does. All other events happen to it. -/
def Event.isOwn : Event → Bool
  | .cancel | .childEnds _ => false
  | _ => true

/-! ### The events as a relation -/

inductive Step (w : Watch) : Event → Watch → Prop
  | cancel : Step w .cancel { w with cancelled := true }
  | refuse (hr : w.result = none) (ha : w.admitted = false) (hc : w.calledOff = true) :
      Step w .check { w with result := some w.interrupted }
  | pass (hr : w.result = none) (ha : w.admitted = false) (hc : w.calledOff = false) :
      Step w .check { w with admitted := true }
  | spawn (hr : w.result = none) (ha : w.admitted = true) (hu : w.child = .unstarted) :
      Step w (.spawn none) { w with child := .running }
  | spawnFails (hr : w.result = none) (ha : w.admitted = true) (hu : w.child = .unstarted)
      (e : IoError) : Step w (.spawn (some e)) { w with result := some (.error e) }
  | childEnds (h : w.child = .running) (exit : Exit) :
      Step w (.childEnds exit) { w with child := .ended exit }
  | collect (hr : w.result = none) (hs : w.stopping = false) {exit : Exit}
      (h : w.child = .ended exit) :
      Step w .collect { w with reaped := true, result := some (.ok exit) }
  | letGo (hr : w.result = none) (hs : w.stopping = false) (hu : w.child ≠ .unstarted)
      (hc : w.calledOff = true) (hm : w.mode = .captured) :
      Step w .notice { w with child := w.child.kill, result := some w.interrupted }
  | stop (hr : w.result = none) (hs : w.stopping = false) (hu : w.child ≠ .unstarted)
      (hc : w.calledOff = true) (hm : w.mode = .plain) :
      Step w .notice { w with stopping := true }
  | kill (hr : w.result = none) (hs : w.stopping = true) :
      Step w (.kill none)
        { w with child := w.child.kill, reaped := true, result := some w.interrupted }
  | killFails (hr : w.result = none) (hs : w.stopping = true) (e : IoError) :
      Step w (.kill (some e)) { w with result := some (.error e) }

variable {w w' : Watch} {ev : Event}

theorem step_of_next (h : w.next ev = some w') : w.Step ev w' := by
  cases ev with
  | cancel =>
    cases h
    exact .cancel
  | check =>
    simp only [next, Option.ite_none_right_eq_some, Option.isNone_iff_eq_none,
      Bool.not_eq_true] at h
    obtain ⟨⟨hr, ha⟩, h⟩ := h
    split at h
    · next hc =>
      cases h
      exact .refuse hr ha hc
    · next hc =>
      cases h
      exact .pass hr ha (Bool.eq_false_iff.2 hc)
  | spawn failure =>
    simp only [next, Option.ite_none_right_eq_some, Option.isNone_iff_eq_none] at h
    obtain ⟨⟨hr, ha, hu⟩, h⟩ := h
    cases failure with
    | none =>
      cases h
      exact .spawn hr ha hu
    | some e =>
      cases h
      exact .spawnFails hr ha hu e
  | childEnds exit =>
    simp only [next, Option.ite_none_right_eq_some] at h
    obtain ⟨hc, h⟩ := h
    cases h
    exact .childEnds hc exit
  | collect =>
    simp only [next] at h
    split at h
    · next exit hr hs hc =>
      cases h
      exact .collect hr hs hc
    · cases h
  | notice =>
    simp only [next, Option.ite_none_right_eq_some, Option.isNone_iff_eq_none,
      Bool.not_eq_true] at h
    obtain ⟨⟨hr, hs, hu, hc⟩, h⟩ := h
    split at h
    · next hm =>
      cases h
      exact .letGo hr hs hu hc hm
    · next hm =>
      cases h
      exact .stop hr hs hu hc hm
  | kill failure =>
    simp only [next, Option.ite_none_right_eq_some, Option.isNone_iff_eq_none] at h
    obtain ⟨⟨hr, hs⟩, h⟩ := h
    cases failure with
    | none =>
      cases h
      exact .kill hr hs
    | some e =>
      cases h
      exact .killFails hr hs e

theorem next_of_step (h : w.Step ev w') : w.next ev = some w' := by
  cases h <;> simp_all [next]

/-! ### What one event changes -/

theorem Step.fixed (h : w.Step ev w') :
    w'.program = w.program ∧ w'.mode = w.mode ∧ w'.hasToken = w.hasToken := by
  cases h <;> exact ⟨rfl, rfl, rfl⟩

theorem Step.cancelled_iff (h : w.Step ev w') :
    w'.cancelled = true ↔ w.cancelled = true ∨ .cancel = ev := by
  cases h <;> simp

theorem Step.unstarted_iff (h : w.Step ev w') :
    w'.child = .unstarted ↔ w.child = .unstarted ∧ .spawn none ≠ ev := by
  cases h with
  | childEnds hc => simp [hc]
  | _ => simp

theorem Step.ended_iff (h : w.Step ev w') (exit : Exit) :
    w'.child = .ended exit ↔ w.child = .ended exit ∨ .childEnds exit = ev := by
  cases h with
  | spawn _ _ hu => simp [hu]
  | childEnds hc => simp [hc, eq_comm]
  | _ => simp

theorem calledOff_eq_true : w.calledOff = true ↔ w.hasToken = true ∧ w.cancelled = true := by
  simp [calledOff]

theorem Step.calledOff_of_calledOff (h : w.Step ev w') (hc : w.calledOff = true) :
    w'.calledOff = true := by
  obtain ⟨ht, hc⟩ := calledOff_eq_true.1 hc
  exact calledOff_eq_true.2 ⟨h.fixed.2.2.trans ht, h.cancelled_iff.2 (.inl hc)⟩

/-! ### What a state tells about the events before it -/

def turns (w : Watch) : Nat :=
  match w.result with
  | some _ => 0
  | none =>
    if w.stopping then 1
    else if w.child ≠ .unstarted then 2
    else if w.admitted then 3
    else 4

structure Records (program : String) (mode : WaitMode) (hasToken : Bool) (es : List Event)
    (w : Watch) : Prop where
  fixed : w.program = program ∧ w.mode = mode ∧ w.hasToken = hasToken
  cancelled : w.cancelled = true ↔ .cancel ∈ es
  unstarted : w.child = .unstarted ↔ .spawn none ∉ es
  ended : ∀ exit, w.child = .ended exit ↔ .childEnds exit ∈ es
  killed : w.child = .killed → w.result ≠ none
  admitted : w.child ≠ .unstarted → w.admitted = true
  stopping : w.stopping = true → w.mode = .plain ∧ w.calledOff = true ∧ w.child ≠ .unstarted
  turns : es.countP Event.isOwn + w.turns ≤ 4

variable {program : String} {mode : WaitMode} {hasToken : Bool} {es : List Event}

theorem records_start : Records program mode hasToken [] (start program mode hasToken) where
  fixed := ⟨rfl, rfl, rfl⟩
  cancelled := by simp [start]
  unstarted := by simp [start]
  ended := by simp [start]
  killed := by simp [start]
  admitted := by simp [start]
  stopping := by simp [start]
  turns := by simp [start, Watch.turns]

theorem Step.turns_lt (h : w.Step ev w') (hw : Records program mode hasToken es w) :
    w'.turns + (if ev.isOwn then 1 else 0) ≤ w.turns := by
  have hadmitted := hw.admitted
  have hstopping := hw.stopping
  cases h <;> simp_all [Watch.turns, Event.isOwn]

theorem Records.step (hw : Records program mode hasToken es w) (h : w.Step ev w') :
    Records program mode hasToken (es ++ [ev]) w' where
  fixed := by
    obtain ⟨hp, hm, ht⟩ := h.fixed
    exact ⟨hp.trans hw.fixed.1, hm.trans hw.fixed.2.1, ht.trans hw.fixed.2.2⟩
  cancelled := by simp [h.cancelled_iff, hw.cancelled]
  unstarted := by simp [h.unstarted_iff, hw.unstarted]
  ended exit := by simp [h.ended_iff, hw.ended]
  killed := by
    have hkilled := hw.killed
    cases h <;> simp_all
  admitted := by
    have hadmitted := hw.admitted
    cases h <;> simp_all
  stopping hs' := by
    have hold : w.mode = .plain ∧ w.calledOff = true ∧ w.child ≠ .unstarted := by
      cases h with
      | stop _ _ hu hc hm => exact ⟨hm, hc, hu⟩
      | _ => exact hw.stopping hs'
    obtain ⟨hm, hc, hu⟩ := hold
    exact ⟨h.fixed.2.1.trans hm, h.calledOff_of_calledOff hc, fun hu' => hu (h.unstarted_iff.1 hu').1⟩
  turns := by
    have hturns := hw.turns
    have hlt := h.turns_lt hw
    rw [List.countP_append, List.countP_singleton]
    omega

theorem Records.run (hw : Records program mode hasToken es w) {fs : List Event}
    (h : w.run fs = some w') : Records program mode hasToken (es ++ fs) w' := by
  induction fs generalizing es w with
  | nil =>
    cases h
    rwa [List.append_nil]
  | cons ev fs ih =>
    obtain ⟨v, hv, h⟩ := Option.bind_eq_some_iff.1 h
    rw [List.append_cons]
    exact ih (hw.step (step_of_next hv)) h

theorem records_run (h : (start program mode hasToken).run es = some w) :
    Records program mode hasToken es w := records_start.run h

theorem Records.calledOff_iff (hw : Records program mode hasToken es w) :
    w.calledOff = true ↔ hasToken = true ∧ .cancel ∈ es := by
  rw [calledOff_eq_true, hw.fixed.2.2, hw.cancelled]

theorem Records.interrupted_eq (hw : Records program mode hasToken es w) :
    w.interrupted = .error (.cancelled program) := by
  rw [interrupted, hw.fixed.1]

/-! ### Results -/

theorem Step.final (h : w.Step ev w') {r : Except IoError Exit} (hr : w.result = some r) :
    w'.result = some r ∧ (w.child ≠ .running → w'.child = w.child) := by
  cases h with
  | cancel => exact ⟨hr, fun _ => rfl⟩
  | childEnds hc => exact ⟨hr, fun hne => absurd hc hne⟩
  | _ => simp_all

theorem final_run {fs : List Event} {r : Except IoError Exit} (h : w.run fs = some w')
    (hr : w.result = some r) :
    w'.result = some r ∧ (w.child ≠ .running → w'.child = w.child) := by
  induction fs generalizing w with
  | nil =>
    cases h
    exact ⟨hr, fun _ => rfl⟩
  | cons ev fs ih =>
    obtain ⟨v, hv, h⟩ := Option.bind_eq_some_iff.1 h
    obtain ⟨hv', hchild⟩ := (step_of_next hv).final hr
    obtain ⟨hw', hrest⟩ := ih h hv'
    refine ⟨hw', fun hne => ?_⟩
    have hsame := hchild hne
    exact (hrest (hsame ▸ hne)).trans hsame

theorem Records.progress (hw : Records program mode hasToken es w) (hr : w.result = none) :
    (w.child = .running ∧ w.calledOff = false) ∨
      ∃ ev w', ev.isOwn = true ∧ w.Step ev w' := by
  cases hs : w.stopping with
  | true => exact .inr ⟨.kill none, _, rfl, .kill hr hs⟩
  | false =>
    cases hc : w.child with
    | unstarted =>
      cases ha : w.admitted with
      | true => exact .inr ⟨.spawn none, _, rfl, .spawn hr ha hc⟩
      | false =>
        cases ho : w.calledOff with
        | true => exact .inr ⟨.check, _, rfl, .refuse hr ha ho⟩
        | false => exact .inr ⟨.check, _, rfl, .pass hr ha ho⟩
    | running =>
      cases ho : w.calledOff with
      | true =>
        have hu : w.child ≠ .unstarted := by simp [hc]
        cases hm : w.mode with
        | captured => exact .inr ⟨.notice, _, rfl, .letGo hr hs hu ho hm⟩
        | plain => exact .inr ⟨.notice, _, rfl, .stop hr hs hu ho hm⟩
      | false => exact .inl ⟨rfl, rfl⟩
    | ended exit => exact .inr ⟨.collect, _, rfl, .collect hr hs hc⟩
    | killed => exact absurd hr (hw.killed hc)

/-- The state in which a cancelled command leaves its child. -/
def Stopped (es : List Event) (c : Child) : Prop :=
  c = .killed ∨ ∃ exit, c = .ended exit ∧ .childEnds exit ∈ es

theorem Records.stopped (hw : Records program mode hasToken es w) (hu : w.child ≠ .unstarted) :
    Stopped es w.child.kill := by
  cases hc : w.child with
  | unstarted => exact absurd hc hu
  | running => exact .inl rfl
  | ended exit => exact .inr ⟨exit, rfl, (hw.ended exit).1 hc⟩
  | killed => exact .inl rfl

theorem Records.of_returned_ok (hw : Records program mode hasToken es w) (h : w.Step ev w')
    {exit : Exit} (hr : w.result = none) (hr' : w'.result = some (.ok exit)) :
    w'.child = .ended exit ∧ .childEnds exit ∈ es := by
  cases h with
  | collect _ _ hc =>
    cases hr'
    exact ⟨hc, (hw.ended _).1 hc⟩
  | _ => simp_all [interrupted]

theorem Records.of_returned_error (hw : Records program mode hasToken es w) (h : w.Step ev w')
    {e : IoError} (hr : w.result = none) (hr' : w'.result = some (.error e)) :
    (ev = .spawn (some e) ∧ w'.child = .unstarted) ∨
    (ev = .kill (some e) ∧ w.mode = .plain ∧ w.calledOff = true) ∨
    (e = .cancelled program ∧ w.calledOff = true ∧
      ((w'.child = .unstarted ∧ .spawn none ∉ es) ∨
        (Stopped es w'.child ∧ .spawn none ∈ es ∧
          (w.mode = .plain → ev = .kill none ∧ w'.reaped = true)))) := by
  have hstarted (hu : w.child ≠ .unstarted) : .spawn none ∈ es :=
    Classical.not_not.1 fun hspawn => hu (hw.unstarted.2 hspawn)
  cases h with
  | refuse _ ha hc =>
    cases hr'.symm.trans (congrArg some hw.interrupted_eq)
    have hu : w.child = .unstarted :=
      Classical.not_not.1 fun hu => Bool.false_ne_true (ha.symm.trans (hw.admitted hu))
    exact .inr (.inr ⟨rfl, hc, .inl ⟨hu, hw.unstarted.1 hu⟩⟩)
  | spawnFails _ _ hu e' =>
    cases hr'
    exact .inl ⟨rfl, hu⟩
  | letGo _ _ hu hc hm =>
    cases hr'.symm.trans (congrArg some hw.interrupted_eq)
    have hplain (hp : w.mode = .plain) : False := by simp [hm] at hp
    exact .inr (.inr ⟨rfl, hc, .inr ⟨hw.stopped hu, hstarted hu, fun hp => (hplain hp).elim⟩⟩)
  | kill _ hs =>
    cases hr'.symm.trans (congrArg some hw.interrupted_eq)
    obtain ⟨-, hc, hu⟩ := hw.stopping hs
    exact .inr (.inr ⟨rfl, hc, .inr ⟨hw.stopped hu, hstarted hu, fun _ => ⟨rfl, rfl⟩⟩⟩)
  | killFails _ hs e' =>
    cases hr'
    obtain ⟨hm, hc, -⟩ := hw.stopping hs
    exact .inr (.inl ⟨rfl, hm, hc⟩)
  | _ => simp_all

/-- For a command that has come this far without a result: what may be returned next and what has
then become of the child. A result is final, and as long as there is none whoever waits has something
to do, at most four times in all, unless the child runs and its token stands. In a captured run the
child counts as running until its output has ended too. -/
theorem outcome (h : (start program mode hasToken).run es = some w) :
    let calledOff := hasToken = true ∧ .cancel ∈ es
    let returns (ev : Event) (w' : Watch) (r : Except IoError Exit) : Prop :=
      w.result = none ∧ w.next ev = some w' ∧ w'.result = some r
    (∀ ev w' exit, returns ev w' (.ok exit) → w'.child = .ended exit ∧ .childEnds exit ∈ es) ∧
    (∀ ev w' e, returns ev w' (.error e) →
      (ev = .spawn (some e) ∧ w'.child = .unstarted) ∨
      (ev = .kill (some e) ∧ mode = .plain ∧ calledOff) ∨
      (e = .cancelled program ∧ calledOff ∧
        ((w'.child = .unstarted ∧ .spawn none ∉ es) ∨
          (Stopped es w'.child ∧ .spawn none ∈ es ∧
            (mode = .plain → ev = .kill none ∧ w'.reaped = true))))) ∧
    (¬ calledOff → ∀ ev w' r, returns ev w' r →
      (∃ exit, r = .ok exit ∧ .childEnds exit ∈ es) ∨ ∃ e, r = .error e ∧ ev = .spawn (some e)) ∧
    (∀ e w', w.next (.kill (some e)) = some w' → returns (.kill (some e)) w' (.error e)) ∧
    (∀ fs w' r, w.run fs = some w' → w.result = some r →
      w'.result = some r ∧ (w.child ≠ .running → w'.child = w.child)) ∧
    (w.result = none → (w.child = .running ∧ ¬ calledOff) ∨
      ∃ ev w', ev.isOwn = true ∧ w.next ev = some w') ∧
    es.countP Event.isOwn ≤ 4 ∧
    ∀ how token b exit out err, Job.await program how token b = .finished exit out err →
      b.exit = some exit ∧ out = b.out ∧ err = b.err := by
  intro calledOff returns
  have hw := records_run h
  have hok (ev w' exit) (hret : returns ev w' (.ok exit)) :
      w'.child = .ended exit ∧ .childEnds exit ∈ es := by
    obtain ⟨hr, hnext, hr'⟩ := hret
    exact hw.of_returned_ok (step_of_next hnext) hr hr'
  have herror (ev w' e) (hret : returns ev w' (.error e)) :
      (ev = .spawn (some e) ∧ w'.child = .unstarted) ∨
      (ev = .kill (some e) ∧ mode = .plain ∧ calledOff) ∨
      (e = .cancelled program ∧ calledOff ∧
        ((w'.child = .unstarted ∧ .spawn none ∉ es) ∨
          (Stopped es w'.child ∧ .spawn none ∈ es ∧
            (mode = .plain → ev = .kill none ∧ w'.reaped = true)))) := by
    obtain ⟨hr, hnext, hr'⟩ := hret
    have hcases := hw.of_returned_error (step_of_next hnext) hr hr'
    rwa [hw.calledOff_iff, hw.fixed.2.1] at hcases
  refine ⟨hok, herror, ?_, ?_, fun fs w' r => final_run, ?_, ?_, ?_⟩
  · intro hc ev w' r hret
    cases r with
    | ok exit => exact .inl ⟨exit, rfl, (hok ev w' exit hret).2⟩
    | error e =>
      rcases herror ev w' e hret with ⟨hev, -⟩ | ⟨-, -, hc'⟩ | ⟨-, hc', -⟩
      · exact .inr ⟨e, rfl, hev⟩
      · exact absurd hc' hc
      · exact absurd hc' hc
  · intro e w' hnext
    cases step_of_next hnext with
    | killFails hr => exact ⟨hr, hnext, rfl⟩
  · intro hr
    rcases hw.progress hr with ⟨hc, ho⟩ | ⟨ev, w', hown, hstep⟩
    · exact .inl ⟨hc, fun ho' => Bool.false_ne_true (ho.symm.trans (hw.calledOff_iff.2 ho'))⟩
    · exact .inr ⟨ev, w', hown, next_of_step hstep⟩
  · exact Nat.le_trans (Nat.le_add_right ..) hw.turns
  · intro how token b exit out err hb
    cases hexit : b.exit with
    | some exit' =>
      rw [Job.await_of_exit hexit] at hb
      cases hb
      exact ⟨rfl, rfl, rfl⟩
    | none =>
      cases hm : how.minds token with
      | true => simp [Job.await_of_minds hexit hm] at hb
      | false => simp [Job.await_of_not_minds hexit hm] at hb

/-- The token is cancelled first and noticed, and the child ends by itself before it can be killed. -/
theorem outcome_late_exit :
    let es : List Event := [.check, .spawn none, .cancel, .notice, .childEnds (.code 3)]
    ∃ w w', (start "sleep" .plain true).run es = some w ∧ w.next (.kill none) = some w' ∧
      w'.result = some (.error (.cancelled "sleep")) ∧
      Stopped es w'.child ∧ w'.reaped = true ∧ es.countP Event.isOwn ≤ 4 := by
  intro es
  have hrun : (start "sleep" .plain true).run es =
      some ⟨"sleep", .plain, true, true, true, .ended (.code 3), false, true, none⟩ := rfl
  obtain ⟨-, herror, -, -, -, -, hturns, -⟩ := outcome hrun
  rcases herror (.kill none) _ _ ⟨rfl, rfl, rfl⟩ with ⟨hev, -⟩ | ⟨hev, -⟩ | ⟨-, -, hchild⟩
  · cases hev
  · cases hev
  · rcases hchild with ⟨hu, -⟩ | ⟨hstopped, -, hplain⟩
    · cases hu
    · exact ⟨_, _, hrun, rfl, rfl, hstopped, (hplain rfl).2, hturns⟩

end RootedRun.Watch
