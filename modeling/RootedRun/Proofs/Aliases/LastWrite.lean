import Mathlib.Data.List.Dedup
import Mathlib.Data.List.Pairwise
import RootedRun.Settings

namespace RootedRun

namespace Entries

/-- The value of the last pair with this name. -/
def last? (name : String) (es : List (String × String)) : Option String :=
  (es.filter (·.1 = name)).getLast?.map Prod.snd

theorem last?_append (name : String) (es es' : List (String × String)) :
    last? name (es ++ es') = (last? name es').or (last? name es) := by
  simp only [last?, List.filter_append, List.getLast?_append, Option.map_or]

theorem last?_singleton (name : String) (e : String × String) :
    last? name [e] = if e.1 = name then some e.2 else none := by
  by_cases h : e.1 = name <;> simp [last?, h]

theorem last?_cons (name : String) (e : String × String) (es : List (String × String)) :
    last? name (e :: es) = (last? name es).or (if e.1 = name then some e.2 else none) := by
  rw [← List.singleton_append, last?_append, last?_singleton]

theorem last?_isSome {name : String} {es : List (String × String)} :
    (last? name es).isSome ↔ name ∈ es.map Prod.fst := by
  induction es with
  | nil => simp [last?]
  | cons e es ih =>
    rw [last?_cons, Option.isSome_or, Bool.or_eq_true, ih, List.map_cons, List.mem_cons, or_comm]
    refine or_congr_left ?_
    by_cases h : e.1 = name
    · simp [h]
    · simp [h, Ne.symm h]

theorem last?_eq_some_iff {name value : String} {es : List (String × String)}
    (h : (es.map Prod.fst).Nodup) : last? name es = some value ↔ (name, value) ∈ es := by
  induction es with
  | nil => simp [last?]
  | cons e es ih =>
    obtain ⟨he, hes⟩ := List.nodup_cons.1 h
    rw [last?_cons, List.mem_cons, ← ih hes]
    by_cases hname : e.1 = name
    · have hnone : last? name es = none := by
        rw [← Option.not_isSome_iff_eq_none, last?_isSome, ← hname]
        exact he
      simp [hnone, Prod.ext_iff, hname, eq_comm]
    · simp [Prod.ext_iff, hname, Ne.symm hname]

/-! ### Ordered lists -/

theorem Ordered.nodup {es : Entries} (h : Ordered es) : (es.map Prod.fst).Nodup := by
  refine List.pairwise_map.2 (h.imp ?_)
  intro a b hab heq
  exact Text.Before.irrefl b.1 (heq ▸ hab)

theorem Ordered.ext {es es' : Entries} (h : Ordered es) (h' : Ordered es')
    (hmem : ∀ e, e ∈ es ↔ e ∈ es') : es = es' := by
  refine List.Perm.eq_of_pairwise ?_ h h' ((List.perm_ext_iff_of_nodup ?_ ?_).2 hmem)
  · intro a b _ _ hab hba
    exact absurd hba hab.asymm
  · exact h.nodup.of_map
  · exact h'.nodup.of_map

theorem Ordered.get?_eq_some_iff {name value : String} {es : Entries} (h : Ordered es) :
    get? name es = some value ↔ (name, value) ∈ es := by
  induction es with
  | nil => simp [get?]
  | cons e es ih =>
    obtain ⟨he, hes⟩ := List.pairwise_cons.1 h
    rw [get?, List.mem_cons, ← ih hes]
    by_cases hname : e.1 = name
    · have hnot : get? name es ≠ some value := fun hget =>
        Text.Before.irrefl name (by simpa [hname] using he _ ((ih hes).1 hget))
      simp [hname, hnot, Prod.ext_iff, eq_comm]
    · simp [hname, Prod.ext_iff, Ne.symm hname]

theorem Ordered.get?_eq_last? {es : Entries} (h : Ordered es) (name : String) :
    get? name es = last? name es :=
  Option.ext fun value => by
    rw [h.get?_eq_some_iff, last?_eq_some_iff h.nodup]

/-! ### Writing one list over another -/

def putAll (es : List (String × String)) (env : Entries) : Entries :=
  es.foldl (fun env e => env.put e.1 e.2) env

theorem get?_putAll (es : List (String × String)) (env : Entries) (name : String) :
    get? name (putAll es env) = (last? name es).or (get? name env) := by
  unfold putAll
  induction es generalizing env with
  | nil => rfl
  | cons e es ih =>
    rw [List.foldl_cons, ih, last?_cons, Option.or_assoc]
    by_cases hname : e.1 = name
    · simp [← hname]
    · simp [hname, get?_put_of_ne hname]

/-! ### Collecting -/

theorem last?_lastOfEach (name : String) (es : List (String × String)) :
    last? name (lastOfEach es) = last? name es := by
  induction es using lastOfEach.induct with
  | case1 => rfl
  | case2 e => rfl
  | case3 e e' es heq ih =>
    rw [lastOfEach, if_pos heq, ih, last?_cons name e]
    by_cases hname : e.1 = name
    · -- the first of the two is hidden by the second
      have hsome : (last? name (e' :: es)).isSome := by
        rw [last?_isSome, ← hname, heq]
        exact List.mem_cons_self
      obtain ⟨value, hvalue⟩ := Option.isSome_iff_exists.1 hsome
      simp [hvalue]
    · simp [hname]
  | case4 e e' es hne ih => rw [lastOfEach, if_neg hne, last?_cons, ih, ← last?_cons]

theorem filter_sort (name : String) (es : List (String × String)) :
    (sort es).filter (·.1 = name) = es.filter (·.1 = name) := by
  have hsame : (es.filter (·.1 = name)).Pairwise fun a b => notAfter a b = true := by
    refine List.pairwise_of_forall_mem_list fun a ha b hb => ?_
    have ha : a.1 = name := by simpa using (List.mem_filter.1 ha).2
    have hb : b.1 = name := by simpa using (List.mem_filter.1 hb).2
    simpa [notAfter, ha, hb] using Text.Before.irrefl name
  have hsub : (es.filter (·.1 = name)).Sublist (sort es) :=
    List.sublist_mergeSort notAfter_trans notAfter_total hsame List.filter_sublist
  have hsub' : (es.filter (·.1 = name)).Sublist ((sort es).filter (·.1 = name)) := by
    simpa using hsub.filter (·.1 = name)
  exact (hsub'.eq_of_length ((List.mergeSort_perm es notAfter).filter _).length_eq.symm).symm

theorem last?_collect (name : String) (es : List (String × String)) :
    last? name (collect es) = last? name es := by
  rw [collect, last?_lastOfEach, last?, filter_sort, last?]

end Entries

namespace Aliases

open Entries (last?)

theorem get?_eq_some_iff {m : Aliases} {name target : String} :
    m.get? name = some target ↔ (name, target) ∈ m.entries := m.ordered.get?_eq_some_iff

theorem get?_eq_last? (m : Aliases) (name : String) : m.get? name = last? name m.entries :=
  m.ordered.get?_eq_last? name

theorem get?_inj {m m' : Aliases} : m = m' ↔ ∀ name, m.get? name = m'.get? name := by
  refine ⟨fun h name => h ▸ rfl, fun h => ext (m.ordered.ext m'.ordered ?_)⟩
  rintro ⟨name, target⟩
  rw [← get?_eq_some_iff, ← get?_eq_some_iff, h]

theorem entries_foldl_insert (es : List (String × String)) (m : Aliases) :
    (es.foldl (fun m e => m.insert e.1 e.2) m).entries = Entries.putAll es m.entries := by
  induction es generalizing m with
  | nil => rfl
  | cons e es ih =>
    rw [List.foldl_cons, ih]
    rfl

theorem get?_foldl_insert (es : List (String × String)) (m : Aliases) (name : String) :
    (es.foldl (fun m e => m.insert e.1 e.2) m).get? name = (last? name es).or (m.get? name) := by
  rw [get?, entries_foldl_insert, Entries.get?_putAll]
  rfl

theorem get?_ofList (es : List (String × String)) (name : String) :
    (ofList es).get? name = last? name es := by
  rw [ofList, get?_foldl_insert, get?_empty, Option.or_none]

theorem get?_collect (es : List (String × String)) (name : String) :
    (collect es).get? name = last? name es := by
  rw [get?_eq_last?]
  exact Entries.last?_collect name es

theorem perm_names_ofList (es : List (String × String)) :
    ((ofList es).entries.map Prod.fst).Perm (es.map Prod.fst).dedup := by
  refine (List.perm_ext_iff_of_nodup (ofList es).ordered.nodup (List.nodup_dedup _)).2 fun name => ?_
  rw [List.mem_dedup, ← Entries.last?_isSome, ← Entries.last?_isSome, ← get?_eq_last?, get?_ofList]

theorem resolve_ofList (es : List (String × String)) (name : String) :
    (ofList es).resolve name = (last? name es).filter (· ≠ "") := by
  rw [resolve, get?_ofList]

theorem resolve_ofList_append (es : List (String × String)) (name target : String) :
    (ofList (es ++ [(name, target)])).resolve name = if target = "" then none else some target := by
  rw [resolve_ofList, Entries.last?_append, Entries.last?_singleton]
  by_cases h : target = "" <;> simp [h, Option.filter]

/-- `tree` and `listing` are other maps with the same content, one of them in the order of its names
and one in no order. A target that is written later hides one that was written before, and a blank
one resolves to nothing. -/
theorem last_write_wins (es : List (String × String)) :
    let last (es : List (String × String)) (name : String) : Option String :=
      (es.filter (·.1 = name)).getLast?.map Prod.snd
    let written (es : List (String × String)) : Aliases :=
      es.foldl (fun m e => m.insert e.1 e.2) .empty
    let m := written es
    (∀ name, m.resolve name = (last es name).filter (· ≠ "")) ∧
    (∀ name target, (written (es ++ [(name, target)])).resolve name =
      if target = "" then none else some target) ∧
    (m.entries.map Prod.fst).Perm (es.map Prod.fst).dedup ∧
    (m.entries.map Prod.fst).Pairwise (fun a b => Text.bytes a < Text.bytes b) ∧
    (∀ name target, (name, target) ∈ m.entries ↔ last es name = some target) ∧
    m.size = (es.map Prod.fst).dedup.length ∧
    Aliases.collect es = m ∧
    (∀ (tree : Entries) (h : tree.Ordered),
      (∀ name target, (name, target) ∈ tree ↔ last es name = some target) → ⟨tree, h⟩ = m) ∧
    (∀ listing : List (String × String), (listing.map Prod.fst).Nodup →
      (∀ name target, (name, target) ∈ listing ↔ last es name = some target) →
      Aliases.collect listing = m) ∧
    (∀ es', (m = written es' ↔ ∀ name, last es name = last es' name) ∧
      (m = written es' ↔ m.entries = (written es').entries)) ∧
    (∀ listing, listing.Perm m.entries →
      Settings.aliases? (some (.table (Settings.textTable listing))) = some m) := by
  intro last written m
  have hget (es) (name) : (written es).get? name = last es name := get?_ofList es name
  have hmem (name target) : (name, target) ∈ m.entries ↔ last es name = some target := by
    rw [← get?_eq_some_iff, hget]
  -- a map without repeated names has the last target of each name as soon as it has the same content
  have hlast {other : List (String × String)} (hnodup : (other.map Prod.fst).Nodup)
      (h : ∀ name target, (name, target) ∈ other ↔ last es name = some target) (name) :
      last other name = last es name :=
    Option.ext fun target => (Entries.last?_eq_some_iff hnodup).trans (h name target)
  have hcollect {other : List (String × String)} (h : ∀ name, last other name = last es name) :
      Aliases.collect other = m :=
    get?_inj.2 fun name => (get?_collect other name).trans ((h name).trans (hget es name).symm)
  refine ⟨resolve_ofList es, resolve_ofList_append es, perm_names_ofList es,
    List.pairwise_map.2 m.ordered, hmem, ?_, hcollect fun _ => rfl, ?_, ?_, ?_, ?_⟩
  · rw [← (perm_names_ofList es).length_eq, List.length_map]
    rfl
  · intro tree h htree
    refine get?_inj.2 fun name => (h.get?_eq_last? name).trans ?_
    exact (hlast h.nodup htree name).trans (hget es name).symm
  · intro listing hnodup h
    exact hcollect (hlast hnodup h)
  · intro es'
    refine ⟨?_, fun h => h ▸ rfl, ext⟩
    simp only [get?_inj, m, hget]
  · intro listing hperm
    have hnodup : (listing.map Prod.fst).Nodup := (hperm.map Prod.fst).nodup_iff.2 m.ordered.nodup
    have hlisting := hlast hnodup fun name target => hperm.mem_iff.trans (hmem name target)
    have hm : ofList listing = m :=
      get?_inj.2 fun name => (hget listing name).trans ((hlisting name).trans (hget es name).symm)
    rw [Settings.aliases?, Settings.named?_textTable, Option.map_some, hm]

/-- Names that come again, a blank target in between and one at the end, and two names whose order
is another one in units of sixteen bits. -/
theorem last_write_wins_hash_order :
    let es := [("😀", "a"), ("\uffff", "\x00"), ("t", "old"), ("t", ""), ("", "b"), ("t", "new"), ("😀", "")]
    let listing := [("t", "new"), ("😀", ""), ("", "b"), ("\uffff", "\x00")]
    (listing.map Prod.fst).Nodup ∧
    (∀ name target, (name, target) ∈ listing ↔
      (es.filter (·.1 = name)).getLast?.map Prod.snd = some target) ∧
    Aliases.collect listing = es.foldl (fun m e => m.insert e.1 e.2) .empty ∧
    (Aliases.collect listing).entries =
      [("", "b"), ("t", "new"), ("\uffff", "\x00"), ("😀", "")] := by
  intro es listing
  have hperm : listing.Perm (es.foldl (fun m e => m.insert e.1 e.2) Aliases.empty).entries := by
    decide +kernel
  obtain ⟨-, -, -, -, hmem, -, -, -, hcollect, -⟩ := last_write_wins es
  have hnodup : (listing.map Prod.fst).Nodup := by decide +kernel
  have hlisting (name target : String) := (hperm.mem_iff (a := (name, target))).trans (hmem name target)
  have heq := hcollect listing hnodup hlisting
  exact ⟨hnodup, hlisting, heq, (congrArg entries heq).trans (by decide +kernel)⟩

end Aliases

end RootedRun
