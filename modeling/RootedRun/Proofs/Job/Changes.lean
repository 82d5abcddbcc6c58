import Mathlib.Data.List.ReduceOption
import RootedRun.Proofs.Aliases.LastWrite
import RootedRun.Proofs.Job.Cancellation
import RootedRun.Proofs.Job.Independence

/-!
Requests after any changes to them and to copies of them. Main statement: what is asked to be started
depends on the command as it was made and on the last word about the directory and about each
variable, whichever of the copies that were taken on the way has been gone on with.
-/

namespace RootedRun

/-! ### Writing one list over another -/

namespace Entries

theorem put_put (name value value' : String) (es : Entries) :
    put name value (put name value' es) = put name value es := by
  induction es with
  | nil => simp [put, Text.Before.irrefl]
  | cons e es ih => grind [put, Text.Before.irrefl]

theorem put_comm {name other : String} (h : name ≠ other) (value value' : String) (es : Entries) :
    put name value (put other value' es) = put other value' (put name value es) := by
  induction es with
  | nil =>
    rcases Text.before_or_eq_or_before name other with hlt | heq | hlt
    · simp [put, hlt, hlt.asymm, h.symm]
    · exact absurd heq h
    · simp [put, hlt, hlt.asymm, h]
  | cons e es ih =>
    grind [put, Text.Before.irrefl, Text.Before.trans, Text.Before.asymm,
      Text.before_or_eq_or_before]

theorem Ordered.putAll {env : Entries} (h : env.Ordered) (es : List (String × String)) :
    (Entries.putAll es env).Ordered := by
  unfold Entries.putAll
  induction es generalizing env with
  | nil => exact h
  | cons e es ih => exact ih (h.put e.1 e.2)

theorem putAll_put {name : String} {es : List (String × String)} (h : name ∉ es.map Prod.fst)
    (value : String) (env : Entries) :
    putAll es (put name value env) = put name value (putAll es env) := by
  unfold putAll
  induction es generalizing env with
  | nil => rfl
  | cons e es ih =>
    rw [List.map_cons, List.mem_cons, not_or] at h
    rw [List.foldl_cons, List.foldl_cons, ← ih h.2, put_comm (Ne.symm h.1)]

theorem putAll_put_ordered {es : Entries} (h : es.Ordered) (name value : String) (env : Entries) :
    putAll (es.put name value) env = put name value (putAll es env) := by
  induction es generalizing env with
  | nil => rfl
  | cons e es ih =>
    obtain ⟨he, hes⟩ := List.pairwise_cons.1 h
    simp only [put]
    split
    · next hlt =>
      have hnot : name ∉ (e :: es).map Prod.fst := by
        rw [List.map_cons, List.mem_cons, not_or]
        refine ⟨fun heq => Text.Before.irrefl e.1 (heq ▸ hlt), fun hmem => ?_⟩
        obtain ⟨a, ha, rfl⟩ := List.mem_map.1 hmem
        exact hlt.asymm (he a ha)
      exact putAll_put hnot value env
    · split
      · next heq =>
        have hnot : name ∉ es.map Prod.fst := heq ▸ (List.nodup_cons.1 h.nodup).1
        have hover : put name value env = put name value (put e.1 e.2 env) := by
          rw [heq, put_put]
        exact (congrArg (putAll es) hover).trans (putAll_put hnot value _)
      · exact ih hes _

theorem putAll_putAll {inner : Entries} (h : inner.Ordered) (es : List (String × String))
    (env : Entries) : putAll (putAll es inner) env = putAll es (putAll inner env) := by
  induction es generalizing inner with
  | nil => rfl
  | cons e es ih => exact (ih (h.put e.1 e.2)).trans (congrArg (putAll es) (putAll_put_ordered h ..))

theorem putAll_congr {es es' : List (String × String)} (h : ∀ name, last? name es = last? name es')
    (env : Entries) : putAll es env = putAll es' env := by
  have hnil : Ordered [] := .nil
  have hsame : putAll es [] = putAll es' [] := by
    refine (hnil.putAll es).ext (hnil.putAll es') fun (name, value) => ?_
    rw [← (hnil.putAll es).get?_eq_some_iff, ← (hnil.putAll es').get?_eq_some_iff, get?_putAll,
      get?_putAll, h name]
  calc putAll es env
    _ = putAll (putAll es []) env := (putAll_putAll hnil es env).symm
    _ = putAll (putAll es' []) env := by rw [hsame]
    _ = putAll es' env := putAll_putAll hnil es' env

end Entries

/-! ### Finding a program -/

namespace Lookup

variable {α : Type} {check : String → Except OsError α} {name : String}

theorem exists_split_cons_iff {β : Type} {P : β → List β → Prop} {Q : β → Prop} {x : β}
    {xs : List β} :
    (∃ front a back, x :: xs = front ++ a :: back ∧ P a back ∧ ∀ b ∈ front, Q b) ↔
      P x xs ∨ Q x ∧ ∃ front a back, xs = front ++ a :: back ∧ P a back ∧ ∀ b ∈ front, Q b := by
  constructor
  · rintro ⟨_ | ⟨_, front⟩, a, back, h, ha, hfront⟩ <;> cases h
    · exact .inl ha
    · obtain ⟨hx, hfront⟩ := List.forall_mem_cons.1 hfront
      exact .inr ⟨hx, front, a, back, rfl, ha, hfront⟩
  · rintro (hx | ⟨hx, front, a, back, rfl, ha, hfront⟩)
    · exact ⟨[], x, xs, rfl, hx, by simp⟩
    · exact ⟨x :: front, a, back, rfl, ha, List.forall_mem_cons.2 ⟨hx, hfront⟩⟩

theorem first_eq_ok_iff {denied : Bool} {last : OsError} {ps : List String} {a : α} :
    first check denied last ps = .ok a ↔ ∃ front p back, ps = front ++ p :: back ∧
      check p = .ok a ∧ ∀ q ∈ front, ∃ e, check q = .error e ∧ e.code ∈ passedOver := by
  induction ps generalizing denied last with
  | nil => simp [first]
  | cons p ps ih =>
    rw [exists_split_cons_iff (P := fun p _ => check p = .ok a)]
    cases hp : check p with
    | ok b => simp [first, hp]
    | error e =>
      by_cases he : e.code ∈ passedOver
      · simp only [first, hp, he, not_true_eq_false, if_false]
        split <;> simp [ih, he]
      · simp [first, hp, he]

/-- The place where a name is looked for when a directory of a `PATH` value has its turn. -/
def turn (name dir : String) : String :=
  if dir = "" ∨ Path.maxPath < dir.utf8ByteSize then name else dir ++ "/" ++ name

theorem location_eq_turn {dir : String} (h : dir.utf8ByteSize ≤ Path.maxPath) :
    location dir name = turn name dir := by
  simp [location, turn, Nat.not_lt.2 h]

theorem location_blank_eq_turn {dir : String} (h : Path.maxPath < dir.utf8ByteSize) :
    location "" name = turn name dir := by
  simp [location, turn, h]

theorem exists_searched_iff {P Q : String → Prop} {ds : List String} :
    (∃ front p back, (searched ds).map (location · name) = front ++ p :: back ∧ P p ∧
      ∀ q ∈ front, Q q) ↔
    ∃ front dir back, ds = front ++ dir :: back ∧
      ((dir.utf8ByteSize ≤ Path.maxPath ∨ back ≠ []) ∧ P (turn name dir)) ∧
      ∀ d ∈ front, Q (turn name d) := by
  induction ds with
  | nil => simp [searched]
  | cons d ds ih =>
    rw [exists_split_cons_iff (P := fun dir back =>
      (dir.utf8ByteSize ≤ Path.maxPath ∨ back ≠ []) ∧ P (turn name dir)), ← ih]
    by_cases hd : d.utf8ByteSize ≤ Path.maxPath
    · simp only [searched, if_pos hd, List.map_cons]
      rw [exists_split_cons_iff (P := fun p _ => P p), location_eq_turn hd]
      simp [hd]
    -- a directory that is too long gives way to the current one, or to nothing where it is the last
    · cases ds with
      | nil => simp [searched, hd]
      | cons d' ds =>
        simp only [searched, if_neg hd, List.isEmpty_cons, Bool.false_eq_true, if_false,
          List.map_cons]
        rw [exists_split_cons_iff (P := fun p _ => P p),
          location_blank_eq_turn (Nat.not_le.1 hd)]
        simp

theorem find_eq_ok_iff {path : Option String} {a : α} (hq : ¬ Qualified name) :
    find check path name = .ok a ↔ name ≠ "" ∧ name.utf8ByteSize ≤ Path.maxName ∧
      ∃ front dir back, dirs (path.getD standardPath) = front ++ dir :: back ∧
        ((dir.utf8ByteSize ≤ Path.maxPath ∨ back ≠ []) ∧ check (turn name dir) = .ok a) ∧
        ∀ d ∈ front, ∃ e, check (turn name d) = .error e ∧ e.code ∈ passedOver := by
  unfold find
  rw [if_neg hq]
  split
  · next hname => simp [hname]
  · next hname =>
    split
    · next hlong => simp [Nat.not_le.2 hlong]
    · next hlong =>
      rw [first_eq_ok_iff, exists_searched_iff]
      simp [hname, Nat.not_lt.1 hlong]

end Lookup

/-! ### One request -/

namespace Request

def Change.dir? : Change → Option String
  | .dir path => some path
  | .var .. => none

def Change.var? : Change → Option (String × String)
  | .dir _ => none
  | .var name value => some (name, value)

variable (r : Request) (changes : List Change)

theorem token_foldl_apply : (changes.foldl apply r).token = r.token := by
  induction changes generalizing r with
  | nil => rfl
  | cons c changes ih => rw [List.foldl_cons, ih, apply_token]

theorem dir_foldl_apply :
    (changes.foldl apply r).dir = (changes.filterMap Change.dir?).getLast?.or r.dir := by
  induction changes generalizing r with
  | nil => rfl
  | cons c changes ih =>
    rw [List.foldl_cons, ih]
    cases c with
    | dir path => simp [Change.dir?, apply, List.getLast?_cons]
    | var name value => simp [Change.dir?, apply]

theorem vars_foldl_apply :
    (changes.foldl apply r).vars = r.vars ++ changes.filterMap Change.var? := by
  induction changes generalizing r with
  | nil => simp
  | cons c changes ih =>
    rw [List.foldl_cons, ih]
    cases c with
    | dir path => simp [Change.var?, apply, List.filterMap_cons]
    | var name value => simp [Change.var?, apply]

/-- The command, its token, the last directory and the last value of each variable are all that
counts. -/
theorem launch_foldl_apply_congr {changes changes' : List Change}
    (hdir : (changes.filterMap Change.dir?).getLast? = (changes'.filterMap Change.dir?).getLast?)
    (hvars : ∀ name, Entries.last? name (changes.filterMap Change.var?) =
      Entries.last? name (changes'.filterMap Change.var?)) (inherited : Entries) :
    (changes.foldl apply r).launch inherited = (changes'.foldl apply r).launch inherited := by
  have henv : (changes.foldl apply r).environment inherited =
      (changes'.foldl apply r).environment inherited := by
    refine Entries.putAll_congr (fun name => ?_) inherited
    rw [vars_foldl_apply, vars_foldl_apply, Entries.last?_append, Entries.last?_append, hvars name]
  simp only [launch, invocation_foldl_apply, dir_foldl_apply, hdir, henv]

theorem get?_environment (inherited : Entries) (name : String) :
    (r.environment inherited).get? name = (Entries.last? name r.vars).or (inherited.get? name) :=
  Entries.get?_putAll r.vars inherited name

end Request

/-! ### Requests and their copies -/

namespace Job

/-- What a step changes about the request with this handle. -/
def Step.change? (handle : Nat) : Step → Option Request.Change
  | .change i c => if i = handle then some c else none
  | _ => none

/-- The steps of a caller who makes these changes and, where there is none, goes on with a copy; the
handle is the last that has been given out. -/
def goingOn (handle : Nat) : List (Option Request.Change) → List Step
  | [] => []
  | some c :: calls => .change handle c :: goingOn handle calls
  | none :: calls => .clone handle :: goingOn (handle + 1) calls

namespace Session

variable {σ : Type u} (start : Start σ) (inherited : Entries) {s : Session σ} {k : Nat} {r : Request}

theorem getElem?_handles_step (h : s.handles[k]? = some r) (step : Step) :
    (s.step start inherited step).1.handles[k]? =
      some ((step.change? k).toList.foldl Request.apply r) := by
  cases step with
  | change i c =>
    simp only [Session.step, Step.change?, List.getElem?_modify, h]
    split <;> rfl
  | clone i =>
    simp only [Session.step]
    split
    · exact h
    · exact (List.getElem?_append_left (List.getElem?_eq_some_iff.1 h).1).trans h
  | cancel t => exact h
  | start i how cancelAfter =>
    simp only [Session.step]
    split
    · exact h
    · rw [launchOn_handles]
      exact h

theorem getElem?_handles_run (h : s.handles[k]? = some r) (steps : List Step) :
    (s.run start inherited steps).1.handles[k]? =
      some ((steps.filterMap (Step.change? k)).foldl Request.apply r) := by
  induction steps generalizing s r with
  | nil => exact h
  | cons step steps ih =>
    have hrun := ih (getElem?_handles_step start inherited h step)
    cases hstep : step.change? k with
    | none => rw [List.filterMap_cons_none hstep]; simpa [hstep, run] using hrun
    | some c => rw [List.filterMap_cons_some hstep]; simpa [hstep, run] using hrun

theorem handles_step_clone (h : s.handles[k]? = some r) :
    (s.step start inherited (.clone k)).1.handles = s.handles ++ [r] := by
  simp only [Session.step, h]

theorem handles_run_clone (h : s.handles[k]? = some r) (steps : List Step) :
    let later := (s.run start inherited (.clone k :: steps)).1
    later.handles[k]? = some ((steps.filterMap (Step.change? k)).foldl Request.apply r) ∧
      later.handles[s.handles.length]? =
        some ((steps.filterMap (Step.change? s.handles.length)).foldl Request.apply r) := by
  intro later
  have hhandles := handles_step_clone start inherited h
  have hcopy : (s.step start inherited (.clone k)).1.handles[s.handles.length]? = some r := by
    rw [hhandles, List.getElem?_concat_length]
  exact ⟨getElem?_handles_run start inherited
      (getElem?_handles_step start inherited h (.clone k)) steps,
    getElem?_handles_run start inherited hcopy steps⟩

theorem getLast?_handles_goingOn (hlength : s.handles.length = k + 1) (h : s.handles[k]? = some r)
    (calls : List (Option Request.Change)) :
    (s.run start inherited (goingOn k calls)).1.handles.getLast? =
      some (calls.reduceOption.foldl Request.apply r) := by
  induction calls generalizing s k r with
  | nil =>
    rw [List.getLast?_eq_getElem?]
    simpa [goingOn, run, hlength] using h
  | cons call calls ih =>
    cases call with
    | some c =>
      have hstep := getElem?_handles_step start inherited h (.change k c)
      rw [Step.change?, if_pos rfl] at hstep
      refine ih ?_ hstep
      simpa [Session.step] using hlength
    | none =>
      have hhandles := handles_step_clone start inherited h
      refine ih (s := (s.step start inherited (.clone k)).1) ?_ ?_
      · rw [hhandles, List.length_append, hlength, List.length_singleton]
      · rw [hhandles, ← hlength, List.getElem?_concat_length]

theorem started_step_start (h : s.handles[k]? = some r) (how : How) (cancelAfter : Option Nat) :
    (s.step start inherited (.start k how cancelAfter)).1.started = s.started ∨
      (s.step start inherited (.start k how cancelAfter)).1.started =
        s.started ++ [r.launch inherited] := by
  simp only [Session.step, h]
  cases hc : s.cancelled.covers r.token with
  | true => exact .inl (by rw [launchOn_of_covers hc])
  | false =>
    obtain ⟨alarms, p, ⟨e, -, hl⟩ | ⟨b, machine, -, hl⟩⟩ :=
      @launchOn_cases _ start inherited s r hc how cancelAfter
    · exact .inl (by rw [hl])
    · exact .inr (by rw [hl]; rfl)

/-- The command is made by the executor itself or behind hosts. `lastDir` and `last` are the last word
about the directory and about a variable; changes that agree in those ask for the same, so neither
their order nor an earlier value counts. A blank directory of the `PATH` value is the current one. So
is one too long to be a path, unless it is the last, which is then passed by. The numbers are those
of the faults after which the next directory is tried. -/
theorem launch_last_word (stack : Stack) (stat : Stat) (i : Invocation) (token : Option Token) :
    let given := ((Stack.prepare stack i).run stat).value
    let made := (((Executor.processes.below stack).submit i token ()).run stat).value.2
    let after (cs : List Request.Change) : Request := cs.foldl Request.apply made
    let lastDir (cs : List Request.Change) := (cs.filterMap Request.Change.dir?).getLast?
    let last (name : String) (cs : List Request.Change) :=
      ((cs.filterMap Request.Change.var?).filter (·.1 = name)).getLast?.map Prod.snd
    (∀ cs : List Request.Change,
      let l := (after cs).launch inherited
      l.program = given.program ∧ l.args = given.args ∧ (after cs).token = token ∧
      l.dir = lastDir cs ∧
      (∀ name, l.env.get? name = (last name cs).or (inherited.get? name)) ∧
      (inherited.Ordered → ∀ name value,
        (name, value) ∈ l.env ↔ (last name cs).or (inherited.get? name) = some value) ∧
      (∀ cs', lastDir cs' = lastDir cs → (∀ name, last name cs' = last name cs) →
        (after cs').launch inherited = l) ∧
      ∀ (α : Type) (check : String → Except OsError α) (file : α),
        let name := given.program
        let path := ((last "PATH" cs).or (inherited.get? "PATH")).getD "/bin:/usr/bin"
        let place (dir : String) :=
          if dir = "" ∨ 4095 < dir.utf8ByteSize then name else dir ++ "/" ++ name
        ('/' ∈ name.toList → l.executable check = check name) ∧
        ('/' ∉ name.toList → (l.executable check = .ok file ↔
          name ≠ "" ∧ name.utf8ByteSize ≤ 255 ∧
          ∃ front dir back,
            (path.toList.splitOn ':').map String.ofList = front ++ dir :: back ∧
            ((dir.utf8ByteSize ≤ 4095 ∨ back ≠ []) ∧ check (place dir) = .ok file) ∧
            ∀ d ∈ front, ∃ e, check (place d) = .error e ∧
              e.code ∈ [2, 13, 19, 20, 110, 116]))) ∧
    (∀ (s : Session σ) (k : Nat) (r : Request), s.handles[k]? = some r →
      (∀ steps : List Step,
        let copy := s.handles.length
        let later := (s.run start inherited (.clone k :: steps)).1
        later.handles[k]? = some ((steps.filterMap (Step.change? k)).foldl Request.apply r) ∧
        later.handles[copy]? = some ((steps.filterMap (Step.change? copy)).foldl Request.apply r)) ∧
      ∀ how cancelAfter,
        let started := (s.step start inherited (.start k how cancelAfter)).1.started
        started = s.started ∨ started = s.started ++ [r.launch inherited]) ∧
    ∀ (s : Session σ) (calls : List (Option Request.Change)),
      (({ s with handles := [made] } : Session σ).run start inherited
        (goingOn 0 calls)).1.handles.getLast? = some (after calls.reduceOption) := by
  intro given made after lastDir last
  have hmade : made = .ofCall ⟨given, token⟩ := Request.value_submit_below_processes stack stat i token
  have hinvocation (cs : List Request.Change) : (after cs).invocation = given := by
    rw [Request.invocation_foldl_apply, hmade]
    rfl
  have henv (cs : List Request.Change) (name : String) :
      ((after cs).environment inherited).get? name = (last name cs).or (inherited.get? name) := by
    rw [Request.get?_environment, Request.vars_foldl_apply, hmade]
    rfl
  refine ⟨fun cs => ⟨?_, ?_, ?_, ?_, henv cs, fun hordered name value => ?_,
      fun cs' hdir hvars => ?_,
      fun α check file => ⟨fun hq => ?_, fun hq => ?_⟩⟩,
    fun s k r h => ⟨handles_run_clone start inherited h, started_step_start start inherited h⟩,
    fun s calls => getLast?_handles_goingOn start inherited rfl rfl calls⟩
  · exact congrArg Invocation.program (hinvocation cs)
  · exact congrArg Invocation.args (hinvocation cs)
  · rw [Request.token_foldl_apply, hmade]
    rfl
  · rw [Request.launch, Request.dir_foldl_apply, hmade]
    exact Option.or_none
  · rw [← henv cs]
    exact (hordered.putAll (after cs).vars).get?_eq_some_iff.symm
  · exact made.launch_foldl_apply_congr hdir hvars inherited
  · rw [← hinvocation cs] at hq ⊢
    exact Launch.executable_of_qualified (l := (after cs).launch inherited) hq check
  · rw [← hinvocation cs] at hq ⊢
    rw [← henv cs]
    exact Lookup.find_eq_ok_iff hq

end Session

end Job

end RootedRun
