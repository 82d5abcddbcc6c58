import RootedRun.Job.Machine
import RootedRun.Proofs.Host.Delegation

/-!
Commands whose token has been cancelled. Main statement: once that has happened, however it came
about, no start of the command or of a copy of it reaches the machine again, and each fails with the
same error about the program that was handed on.
-/

namespace RootedRun

theorem Request.value_submit_below_processes (stack : Stack) (stat : Stat) (i : Invocation)
    (token : Option Token) :
    (((Executor.processes.below stack).submit i token ()).run stat).value.2 =
      .ofCall ⟨((Stack.prepare stack i).run stat).value, token⟩ := by
  rw [Executor.run_submit_below]
  cases token <;> rfl

namespace Job.Session

variable {σ : Type u} {start : Start σ} {inherited : Entries} {s : Session σ}

/-! ### Starting one command -/

theorem launchOn_of_covers {r : Request} (h : s.cancelled.covers r.token = true) (how : How)
    (cancelAfter : Option Nat) :
    s.launchOn start inherited r how cancelAfter =
      (s, .failed (.cancelled r.invocation.program)) := if_pos h

theorem setAlarm?_eq (s : Session σ) (token : Option Token) (after : Option Nat) :
    ∃ alarms, s.setAlarm? token after = { s with alarms } := by
  unfold setAlarm?
  split
  · exact ⟨_, rfl⟩
  · exact ⟨s.alarms, rfl⟩

theorem launchOn_cases {r : Request} (h : s.cancelled.covers r.token = false) (how : How)
    (cancelAfter : Option Nat) :
    ∃ alarms p,
      (∃ e, start s.machine (r.launch inherited) p = .error e ∧
        s.launchOn start inherited r how cancelAfter = ({ s with alarms }, .failed e)) ∨
      ∃ b machine, start s.machine (r.launch inherited) p = .ok (b, machine) ∧
        s.launchOn start inherited r how cancelAfter =
          (({ s with machine, alarms, started := s.started ++ [r.launch inherited] } :
              Session σ).pass (p.spent b),
            await r.invocation.program how r.token b) := by
  obtain ⟨alarms, halarm⟩ := s.setAlarm?_eq r.token cancelAfter
  unfold launchOn
  rw [if_neg (Bool.eq_false_iff.1 h)]
  simp only [halarm]
  generalize how.waiting r.token (r.token.bind (Session.left _)) = p
  refine ⟨alarms, p, ?_⟩
  cases hstart : start s.machine (r.launch inherited) p with
  | error e => exact .inl ⟨e, rfl, rfl⟩
  | ok made => exact .inr ⟨made.1, made.2, rfl, rfl⟩

theorem launchOn_handles (r : Request) (how : How) (cancelAfter : Option Nat) :
    (s.launchOn start inherited r how cancelAfter).1.handles = s.handles := by
  cases h : s.cancelled.covers r.token with
  | true => rw [launchOn_of_covers h]
  | false =>
    obtain ⟨alarms, p, ⟨e, -, hl⟩ | ⟨b, machine, -, hl⟩⟩ := launchOn_cases h how cancelAfter
    · rw [hl]
    · rw [hl]
      rfl

theorem mem_foldl_add {c : Cancelled} {t : Token} (h : t ∈ c) (due : List (Token × Nat)) :
    t ∈ due.foldl (fun c a => c.add a.1) c := by
  induction due generalizing c with
  | nil => exact h
  | cons a due ih => exact ih (List.mem_cons_of_mem _ h)

theorem mem_cancelled_launchOn {t : Token} (h : t ∈ s.cancelled) (r : Request) (how : How)
    (cancelAfter : Option Nat) :
    t ∈ (s.launchOn start inherited r how cancelAfter).1.cancelled := by
  cases hc : s.cancelled.covers r.token with
  | true => rwa [launchOn_of_covers hc]
  | false =>
    obtain ⟨alarms, p, ⟨e, -, hl⟩ | ⟨b, machine, -, hl⟩⟩ := launchOn_cases hc how cancelAfter
    · rwa [hl]
    · rw [hl]
      exact mem_foldl_add h _

/-! ### Steps and runs -/

/-- Whatever can be started is the command that was made, or a copy of it. -/
def CopiesOf (made : Request) (s : Session σ) : Prop :=
  ∀ r ∈ s.handles, r.invocation = made.invocation ∧ r.token = made.token

variable {made : Request} {t : Token}

theorem CopiesOf.step (h : s.CopiesOf made) (step : Step) :
    (s.step start inherited step).1.CopiesOf made := by
  cases step with
  | change i c =>
    intro r hr
    obtain ⟨k, hk⟩ := List.getElem?_of_mem hr
    simp only [Session.step, List.getElem?_modify, Option.map_eq_map, Option.map_eq_some_iff] at hk
    obtain ⟨r', hr', rfl⟩ := hk
    have hmade := h r' (List.mem_of_getElem? hr')
    split
    · rwa [Request.apply_invocation, Request.apply_token]
    · exact hmade
  | clone i =>
    simp only [Session.step]
    split
    · exact h
    · next r hi =>
      intro r' hr'
      rcases List.mem_append.1 hr' with hr' | hr'
      · exact h r' hr'
      · exact List.mem_singleton.1 hr' ▸ h r (List.mem_of_getElem? hi)
  | cancel t => exact h
  | start i how cancelAfter =>
    simp only [Session.step]
    split
    · exact h
    · rw [CopiesOf, launchOn_handles]
      exact h

theorem CopiesOf.run (h : s.CopiesOf made) (steps : List Step) :
    (s.run start inherited steps).1.CopiesOf made := by
  induction steps generalizing s with
  | nil => exact h
  | cons step steps ih => exact ih (h.step step)

theorem mem_cancelled_step (h : t ∈ s.cancelled) (step : Step) :
    t ∈ (s.step start inherited step).1.cancelled := by
  cases step with
  | change i c => exact h
  | clone i =>
    simp only [Session.step]
    split <;> exact h
  | cancel t' => exact List.mem_cons_of_mem _ h
  | start i how cancelAfter =>
    simp only [Session.step]
    split
    · exact h
    · exact mem_cancelled_launchOn h ..

theorem mem_cancelled_run (h : t ∈ s.cancelled) (steps : List Step) :
    t ∈ (s.run start inherited steps).1.cancelled := by
  induction steps generalizing s with
  | nil => exact h
  | cons step steps ih => exact ih (mem_cancelled_step h step)

theorem mem_cancelled_of_cancel {steps : List Step} (h : .cancel t ∈ steps) :
    t ∈ (s.run start inherited steps).1.cancelled := by
  induction steps generalizing s with
  | nil => cases h
  | cons step steps ih =>
    rcases List.mem_cons.1 h with rfl | h
    · exact mem_cancelled_run (List.mem_cons_self ..) steps
    · exact ih h

theorem getElem?_answers (steps : List Step) (k : Nat) :
    (s.run start inherited steps).2[k]? =
      steps[k]?.map fun step =>
        ((s.run start inherited (steps.take k)).1.step start inherited step).2 := by
  induction steps generalizing s k with
  | nil => rfl
  | cons step steps ih =>
    cases k with
    | zero => rfl
    | succ k => exact ih k

/-! ### Once the token is cancelled -/

theorem CopiesOf.covers (h : s.CopiesOf made) (ht : made.token = some t) (hc : t ∈ s.cancelled)
    {r : Request} (hr : r ∈ s.handles) : s.cancelled.covers r.token = true :=
  RootedRun.Session.covers_eq_true.2 ⟨t, (h r hr).2.trans ht, hc⟩

theorem CopiesOf.step_start (h : s.CopiesOf made) (ht : made.token = some t) (hc : t ∈ s.cancelled)
    {i : Nat} {r : Request} (hi : s.handles[i]? = some r) (how : How) (cancelAfter : Option Nat) :
    s.step start inherited (.start i how cancelAfter) =
      (s, .failed (.cancelled made.invocation.program)) := by
  have hr := List.mem_of_getElem? hi
  simp only [Session.step, hi]
  rw [launchOn_of_covers (h.covers ht hc hr), (h r hr).1]

theorem CopiesOf.step_untouched (h : s.CopiesOf made) (ht : made.token = some t)
    (hc : t ∈ s.cancelled) (step : Step) :
    (s.step start inherited step).1.started = s.started ∧
      (s.step start inherited step).1.machine = s.machine := by
  cases step with
  | change i c => exact ⟨rfl, rfl⟩
  | clone i =>
    simp only [Session.step]
    split <;> exact ⟨rfl, rfl⟩
  | cancel t' => exact ⟨rfl, rfl⟩
  | start i how cancelAfter =>
    cases hi : s.handles[i]? with
    | none => simp [Session.step, hi]
    | some r =>
      rw [h.step_start ht hc hi]
      exact ⟨rfl, rfl⟩

theorem CopiesOf.run_untouched (h : s.CopiesOf made) (ht : made.token = some t)
    (hc : t ∈ s.cancelled) (steps : List Step) :
    (s.run start inherited steps).1.started = s.started ∧
      (s.run start inherited steps).1.machine = s.machine := by
  induction steps generalizing s with
  | nil => exact ⟨rfl, rfl⟩
  | cons step steps ih =>
    let s' := (s.step start inherited step).1
    have hs : s'.started = s.started ∧ s'.machine = s.machine := h.step_untouched ht hc step
    have hs' := ih (s := s') (h.step step) (mem_cancelled_step hc step)
    exact ⟨hs'.1.trans hs.1, hs'.2.trans hs.2⟩

/-! ### Without a token -/

theorem CopiesOf.step_ne_cancelled (h : s.CopiesOf made) (ht : made.token = none)
    (hstart : ∀ m l p program, start m l p ≠ .error (.cancelled program)) (step : Step)
    (program : String) :
    (s.step start inherited step).2 ≠ .failed (.cancelled program) := by
  cases step with
  | change i c => simp [Session.step]
  | clone i =>
    simp only [Session.step]
    split <;> simp
  | cancel t => simp [Session.step]
  | start i how cancelAfter =>
    cases hi : s.handles[i]? with
    | none => simp [Session.step, hi]
    | some r =>
      have hr : r.token = none := (h r (List.mem_of_getElem? hi)).2.trans ht
      have hcovers : s.cancelled.covers r.token = false := by rw [hr]; rfl
      have hminds : how.minds r.token = false := by rw [hr]; rfl
      simp only [Session.step, hi]
      obtain ⟨alarms, p, ⟨e, he, hl⟩ | ⟨b, machine, -, hl⟩⟩ :=
        @launchOn_cases _ start inherited s r hcovers how cancelAfter
      · rw [hl]
        rintro ⟨⟩
        exact hstart _ _ _ _ he
      · rw [hl]
        cases hexit : b.exit with
        | some exit => simp [await_of_exit hexit]
        | none => simp [await_of_not_minds hexit hminds]

/-! ### All runs -/

/-- The command can be made through any stack, none at all included, and its token can be cancelled
before that, by any step in front or by a moment that has come; the starts may be of the command or
of copies that were taken at any time. What the machine would do with them plays no part. -/
theorem never_started_once_cancelled (start : Start σ) (inherited : Entries) (s : Session σ)
    (stack : Stack) (stat : Stat) (i : Invocation) (token : Option Token) (front back : List Step) :
    let made := (((Executor.processes.below stack).submit i token ()).run stat).value.2
    let program := ((Stack.prepare stack i).run stat).value.program
    let e := IoError.cancelled program
    let now := (({ s with handles := [made] } : Session σ).run start inherited front).1
    let later := now.run start inherited back
    (∀ r ∈ later.1.handles, r.invocation.program = program ∧ r.token = token) ∧
    (∀ t, t ∈ s.cancelled ∨ .cancel t ∈ front → t ∈ now.cancelled) ∧
    (∀ t ∈ now.cancelled, t ∈ later.1.cancelled) ∧
    (∀ t ∈ now.cancelled, token = some t →
      later.1.started = now.started ∧ later.1.machine = now.machine ∧
      ∀ k handle how after, back[k]? = some (.start handle how after) →
        handle < (now.run start inherited (back.take k)).1.handles.length →
        later.2[k]? = some (.failed e)) ∧
    e.kind = .interrupted ∧ e.message = "command cancelled: " ++ program ∧
    (token = none → (∀ m l p q, start m l p ≠ .error (.cancelled q)) →
      ∀ (k : Nat) q, later.2[k]? ≠ some (.failed (.cancelled q))) := by
  intro made program e now later
  have hmade : made = .ofCall ⟨((Stack.prepare stack i).run stat).value, token⟩ :=
    Request.value_submit_below_processes stack stat i token
  have hprogram : made.invocation.program = program := by rw [hmade]; rfl
  have htoken : made.token = token := by rw [hmade]; rfl
  have hfirst : ({ s with handles := [made] } : Session σ).CopiesOf made := by simp [CopiesOf]
  have hnow : now.CopiesOf made := hfirst.run front
  refine ⟨?_, ?_, fun t ht => mem_cancelled_run ht back, ?_, rfl, rfl, ?_⟩
  · intro r hr
    obtain ⟨hi, ht⟩ := hnow.run back r hr
    rw [hi, ht]
    exact ⟨hprogram, htoken⟩
  · rintro t (ht | ht)
    · exact mem_cancelled_run (s := { s with handles := [made] }) ht front
    · exact mem_cancelled_of_cancel ht
  · intro t ht htok
    obtain ⟨hstarted, hmachine⟩ := hnow.run_untouched (htoken.trans htok) ht back
    refine ⟨hstarted, hmachine, fun k handle how after hk hhandle => ?_⟩
    rw [getElem?_answers, hk, Option.map_some, (hnow.run (back.take k)).step_start
      (htoken.trans htok) (mem_cancelled_run ht _) (List.getElem?_eq_getElem hhandle), hprogram]
  · intro htok hstart k q
    rw [getElem?_answers]
    cases back[k]? with
    | none => simp
    | some step =>
      intro heq
      exact (hnow.run (back.take k)).step_ne_cancelled (htoken.trans htok) hstart step q
        (Option.some_inj.1 heq)

/-- The program has a character that no machine would take, and the copy is made afterwards. -/
theorem never_started_once_cancelled_nul :
    let host : Host := ⟨.empty, some "/r", .standard⟩
    let stat : Stat := fun _ => .error (.os .notFound)
    let made (token : Option Token) :=
      (((Executor.processes.below [host]).submit ⟨"no\x00such", ["-v"]⟩ token ()).run stat).value.2
    let now (token : Option Token) :=
      ((ofRequest (made token) (Machine.ofFiles (FileSystem.machine "/"))).run
        Job.start Job.inherited [.cancel ⟨0⟩]).1
    let back := [.clone 0, .change 1 (.var "A" "b"), .start 1 .spawn none]
    let answers (token : Option Token) := ((now token).run Job.start Job.inherited back).2
    (⟨0⟩ ∈ (now (some ⟨0⟩)).cancelled ∧
      (answers (some ⟨0⟩))[2]? = some (.failed (.cancelled "/usr/sbin/chroot"))) ∧
    (answers none)[2]? ≠ some (.failed (.cancelled "/usr/sbin/chroot")) := by
  intro host stat made now back answers
  have hruns (token : Option Token) :=
    never_started_once_cancelled Job.start Job.inherited
      (ofRequest (made token) (Machine.ofFiles (FileSystem.machine "/"))) [host] stat
      ⟨"no\x00such", ["-v"]⟩ token [.cancel ⟨0⟩] back
  constructor
  · obtain ⟨-, hcancel, -, hlater, -⟩ := hruns (some ⟨0⟩)
    have hc : ⟨0⟩ ∈ (now (some ⟨0⟩)).cancelled := hcancel ⟨0⟩ (.inr (List.mem_singleton.2 rfl))
    refine ⟨hc, ?_⟩
    obtain ⟨-, -, hanswer⟩ := hlater ⟨0⟩ hc rfl
    have hprogram : ((Stack.prepare [host] ⟨"no\x00such", ["-v"]⟩).run stat).value.program =
        "/usr/sbin/chroot" := by decide +kernel
    have h := hanswer 2 1 .spawn none rfl (by decide +kernel)
    rwa [hprogram] at h
  · obtain ⟨-, -, -, -, -, -, hnone⟩ := hruns none
    exact hnone rfl start_ne_cancelled 2 "/usr/sbin/chroot"

end Job.Session

end RootedRun
