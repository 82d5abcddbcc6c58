import RootedRun.Toml.Document

namespace RootedRun.Toml

inductive Value.Distinct : Value → Prop
  | text (s : String) : Distinct (.text s)
  | number (n : Number) : Distinct (.number n)
  | bool (b : Bool) : Distinct (.bool b)
  | moment (m : Moment) : Distinct (.moment m)
  | list {vs : List Value} : (∀ v ∈ vs, Distinct v) → Distinct (.list vs)
  | table {t : List (String × Value)} :
    (t.map Prod.fst).Nodup → (∀ e ∈ t, Distinct e.2) → Distinct (.table t)

inductive Draft.Distinct : Draft → Prop
  | value {v : Value} : v.Distinct → Distinct (.value v)
  | table {o : Origin} {es : List (String × Draft)} :
    (es.map Prod.fst).Nodup → (∀ e ∈ es, Distinct e.2) → Distinct (.table o es)
  | tables {ts : List (List (String × Draft))} :
    (∀ t ∈ ts, (t.map Prod.fst).Nodup) → (∀ t ∈ ts, ∀ e ∈ t, Distinct e.2) → Distinct (.tables ts)

def Table.Distinct (t : Table) : Prop := (t.map Prod.fst).Nodup ∧ ∀ e ∈ t, e.2.Distinct

theorem Value.distinct_table_iff {t : Table} : (Value.table t).Distinct ↔ t.Distinct := by
  constructor
  · rintro (_ | _ | _ | _ | _ | ⟨hnames, hvalues⟩)
    exact ⟨hnames, hvalues⟩
  · exact fun h => .table h.1 h.2

theorem Table.Distinct.get?_eq_some_iff {t : Table} (h : t.Distinct) {name : String} {v : Value} :
    t.get? name = some v ↔ (name, v) ∈ t := by
  obtain ⟨hnames, -⟩ := h
  induction t with
  | nil => simp [Table.get?]
  | cons e t ih =>
    obtain ⟨he, ht⟩ := List.nodup_cons.1 hnames
    have ih := ih ht
    unfold Table.get? at ih ⊢
    rw [List.find?_cons, List.mem_cons]
    by_cases hname : e.1 = name
    · have hnot : (name, v) ∉ t := fun hmem => he (hname ▸ List.mem_map_of_mem hmem)
      simp [hname, hnot, Prod.ext_iff, eq_comm]
    · simp [hname, ih, Prod.ext_iff, Ne.symm hname]

theorem Table.Distinct.get?_congr {t t' : Table} (h : t.Distinct) (h' : t'.Distinct)
    {name : String} (hmem : ∀ v, (name, v) ∈ t ↔ (name, v) ∈ t') : t.get? name = t'.get? name :=
  Option.ext fun v => h.get?_eq_some_iff.trans ((hmem v).trans h'.get?_eq_some_iff.symm)

namespace Draft

/-! ### Tables while they are made -/

def Entries.Distinct (es : Entries) : Prop := (es.map Prod.fst).Nodup ∧ ∀ e ∈ es, e.2.Distinct

variable {es : Entries} {name : String} {d : Draft}

theorem Entries.distinct_nil : Entries.Distinct [] := ⟨.nil, by simp⟩

theorem get?_eq_none_iff : get? name es = none ↔ name ∉ es.map Prod.fst := by
  simp only [get?, Option.map_eq_none_iff, List.find?_eq_none, decide_eq_true_eq, List.mem_map,
    not_exists, not_and]

theorem mem_of_get? (h : get? name es = some d) : (name, d) ∈ es := by
  obtain ⟨e, he, rfl⟩ := Option.map_eq_some_iff.1 h
  obtain rfl : e.1 = name := by simpa using List.find?_some he
  exact List.mem_of_find?_eq_some he

theorem names_set : (set name d es).map Prod.fst =
    if name ∈ es.map Prod.fst then es.map Prod.fst else es.map Prod.fst ++ [name] := by
  induction es with
  | nil => rfl
  | cons e es ih =>
    by_cases hname : e.1 = name
    · simp [set, hname]
    · simp only [set, if_neg hname, List.map_cons, ih, List.mem_cons, Ne.symm hname, false_or]
      split <;> rfl

theorem mem_set {e : String × Draft} (h : e ∈ set name d es) : e = (name, d) ∨ e ∈ es := by
  induction es with
  | nil => exact .inl (List.mem_singleton.1 h)
  | cons e' es ih =>
    rw [set] at h
    split at h
    · rcases List.mem_cons.1 h with rfl | h
      · exact .inl rfl
      · exact .inr (List.mem_cons_of_mem _ h)
    · rcases List.mem_cons.1 h with rfl | h
      · exact .inr List.mem_cons_self
      · exact (ih h).imp_right (List.mem_cons_of_mem _)

theorem Entries.Distinct.set (h : es.Distinct) (hd : d.Distinct) : (set name d es).Distinct := by
  refine ⟨?_, fun e he => ?_⟩
  · rw [names_set]
    split
    · exact h.1
    · next hname =>
      refine List.nodup_append.2 ⟨h.1, by simp, fun other hother name' hname' heq => hname ?_⟩
      rwa [← List.mem_singleton.1 hname', ← heq]
  · rcases mem_set he with rfl | he
    · exact hd
    · exact h.2 e he

theorem Entries.Distinct.get? (h : es.Distinct) (hd : get? name es = some d) : d.Distinct :=
  h.2 _ (mem_of_get? hd)

theorem distinct_table_iff {o : Origin} : (table o es).Distinct ↔ es.Distinct := by
  constructor
  · rintro (_ | ⟨hnames, hdrafts⟩)
    exact ⟨hnames, hdrafts⟩
  · exact fun h => .table h.1 h.2

theorem distinct_tables_iff {ts : List Entries} : (tables ts).Distinct ↔ ∀ t ∈ ts, t.Distinct := by
  constructor
  · rintro (_ | _ | ⟨hnames, hdrafts⟩) t ht
    exact ⟨hnames t ht, hdrafts t ht⟩
  · exact fun h => .tables (fun t ht => (h t ht).1) fun t ht => (h t ht).2

def Keeps (f : Origin → Entries → Option (Origin × Entries)) : Prop :=
  ∀ o es o' es', es.Distinct → f o es = some (o', es') → es'.Distinct

theorem keeps_descend {dotted : Bool} {f : Origin → Entries → Option (Origin × Entries)}
    (hf : Keeps f) (path : List String) : Keeps (descend dotted f path) := by
  induction path with
  | nil => exact hf
  | cons name rest ih =>
    intro o es o' es' hes h
    rw [descend] at h
    split at h
    · obtain ⟨t, ht, heq⟩ := Option.bind_eq_some_iff.1 h
      cases heq
      exact hes.set (distinct_table_iff.2 (ih _ _ _ _ Entries.distinct_nil ht))
    · cases h
    · next o₁ es₁ hget =>
      split at h
      · cases h
      · obtain ⟨t, ht, heq⟩ := Option.bind_eq_some_iff.1 h
        cases heq
        exact hes.set (distinct_table_iff.2 (ih _ _ _ _ (distinct_table_iff.1 (hes.get? hget)) ht))
    · cases h
    · next last earlier hget =>
      obtain ⟨t, ht, heq⟩ := Option.bind_eq_some_iff.1 h
      cases heq
      have htables := List.forall_mem_cons.1 (distinct_tables_iff.1 (hes.get? hget))
      exact hes.set (distinct_tables_iff.2
        (List.forall_mem_cons.2 ⟨ih _ _ _ _ htables.1 ht, htables.2⟩))

theorem keeps_addValue {v : Value} (hv : v.Distinct) (plain : Bool) (name : String) :
    Keeps (addValue plain name v) := by
  intro o es o' es' hes h
  rw [addValue] at h
  split at h
  · cases h
  · split at h
    · cases h
      exact hes.set (.value hv)
    · cases h

theorem keeps_addHeader (name : String) : Keeps (addHeader name) := by
  intro o es o' es' hes h
  rw [addHeader] at h
  split at h
  · cases h
    exact hes.set (distinct_table_iff.2 Entries.distinct_nil)
  · next es₁ hget =>
    cases h
    exact hes.set (distinct_table_iff.2 (distinct_table_iff.1 (hes.get? hget)))
  · cases h

theorem keeps_addElement (name : String) : Keeps (addElement name) := by
  intro o es o' es' hes h
  rw [addElement] at h
  split at h
  · cases h
    exact hes.set (distinct_tables_iff.2 (by simpa using Entries.distinct_nil))
  · next ts hget =>
    cases h
    have hts := distinct_tables_iff.1 (hes.get? hget)
    exact hes.set (distinct_tables_iff.2 (List.forall_mem_cons.2 ⟨Entries.distinct_nil, hts⟩))
  · cases h

end Draft

def Statement.Distinct : Statement → Prop
  | .value _ v => v.Distinct
  | _ => True

namespace Draft

theorem Entries.Distinct.add {current current' : List String} {es es' : Entries}
    (h : es.Distinct) {line : Statement} (hline : line.Distinct)
    (hadd : add current es line = some (current', es')) : es'.Distinct := by
  cases line with
  | value path v =>
    obtain ⟨name, -, hadd⟩ := Option.bind_eq_some_iff.1 hadd
    obtain ⟨r, hr, heq⟩ := Option.bind_eq_some_iff.1 hadd
    cases heq
    exact keeps_descend (keeps_descend (keeps_addValue hline _ name) _) _ _ _ _ _ h hr
  | header path =>
    obtain ⟨name, -, hadd⟩ := Option.bind_eq_some_iff.1 hadd
    obtain ⟨r, hr, heq⟩ := Option.bind_eq_some_iff.1 hadd
    cases heq
    exact keeps_descend (keeps_addHeader name) _ _ _ _ _ h hr
  | element path =>
    obtain ⟨name, -, hadd⟩ := Option.bind_eq_some_iff.1 hadd
    obtain ⟨r, hr, heq⟩ := Option.bind_eq_some_iff.1 hadd
    cases heq
    exact keeps_descend (keeps_addElement name) _ _ _ _ _ h hr

theorem toTable_eq_map (es : Entries) : toTable es = es.map fun e => (e.1, e.2.toValue) := by
  induction es with
  | nil => rfl
  | cons e es ih => rw [toTable, ih, List.map_cons]

theorem toTables_eq_map (ts : List Entries) : toTables ts = ts.map fun t => .table (toTable t) := by
  induction ts with
  | nil => rfl
  | cons t ts ih => rw [toTables, ih, List.map_cons]

theorem distinct_toTable {es : Entries} (hnames : (es.map Prod.fst).Nodup)
    (h : ∀ e ∈ es, e.2.toValue.Distinct) : Table.Distinct (toTable es) := by
  rw [toTable_eq_map]
  refine ⟨by simpa [Function.comp_def] using hnames, fun e he => ?_⟩
  obtain ⟨e', he', rfl⟩ := List.mem_map.1 he
  exact h e' he'

theorem Distinct.toValue {d : Draft} (h : d.Distinct) : d.toValue.Distinct := by
  induction h with
  | value hv => exact hv
  | table hnames _ ih => exact Value.distinct_table_iff.2 (distinct_toTable hnames ih)
  | tables hnames _ ih =>
    rw [Draft.toValue, toTables_eq_map]
    refine .list fun v hv => ?_
    obtain ⟨t, ht, rfl⟩ := List.mem_map.1 (List.mem_reverse.1 hv)
    exact Value.distinct_table_iff.2 (distinct_toTable (hnames t ht) (ih t ht))

theorem Entries.Distinct.toTable {es : Entries} (h : es.Distinct) :
    Table.Distinct (Draft.toTable es) := distinct_toTable h.1 fun e he => (h.2 e he).toValue

end Draft

theorem Table.distinct_of_ofStatements? {lines : List Statement} {t : Table}
    (hlines : ∀ line ∈ lines, line.Distinct) (h : ofStatements? lines = some t) : t.Distinct := by
  obtain ⟨s, hs, rfl⟩ := Option.map_eq_some_iff.1 h
  -- the header above a line decides where it goes, so it is left open in the induction
  suffices hdistinct : ∀ current es, Draft.Entries.Distinct es →
      lines.foldlM (fun (s : List String × Draft.Entries) l => Draft.add s.1 s.2 l) (current, es) =
        some s → Draft.Entries.Distinct s.2 from
    (hdistinct [] [] Draft.Entries.distinct_nil hs).toTable
  clear hs h
  induction lines with
  | nil =>
    intro current es hes h
    cases h
    exact hes
  | cons line lines ih =>
    intro current es hes h
    obtain ⟨hline, hlines⟩ := List.forall_mem_cons.1 hlines
    obtain ⟨⟨current', es'⟩, hadd, h⟩ := Option.bind_eq_some_iff.1 h
    exact ih hlines current' es' (hes.add hline hadd) h

namespace Document

/-! ### Values as they are read -/

def ReadsDistinct (value : ReadValue) : Prop :=
  ∀ ⦃cs v r⦄, value cs = some (v, r) → v.Distinct

theorem readsDistinct_scalar? : ReadsDistinct scalar? := by
  intro cs v r h
  unfold scalar? at h
  split at h
  · cases h
    exact .bool true
  · cases h
    exact .bool false
  · obtain ⟨⟨s, r'⟩, -, heq⟩ := Option.map_eq_some_iff.1 h
    cases heq
    exact .text s
  · obtain ⟨⟨s, r'⟩, -, heq⟩ := Option.map_eq_some_iff.1 h
    cases heq
    exact .text s
  · split at h
    · next m _ _ =>
      cases h
      exact .moment m
    · obtain ⟨⟨n, r'⟩, -, heq⟩ := Option.map_eq_some_iff.1 h
      cases heq
      exact .number n

variable {value : ReadValue} (hvalue : ReadsDistinct value)

include hvalue

theorem distinct_of_elements? {fuel : Nat} {cs r : List Char} {vs : List Value}
    (h : elements? value fuel cs = some (vs, r)) : ∀ v ∈ vs, v.Distinct := by
  induction fuel generalizing cs vs with
  | zero => cases h
  | succ fuel ih =>
    rw [elements?] at h
    split at h
    · cases h
      simp
    · obtain ⟨⟨v, r'⟩, hv, h⟩ := Option.bind_eq_some_iff.1 h
      dsimp only at h
      split at h
      · obtain ⟨⟨vs', r''⟩, hvs, h⟩ := Option.bind_eq_some_iff.1 h
        cases h
        exact List.forall_mem_cons.2 ⟨hvalue hv, ih hvs⟩
      · cases h
        simpa using hvalue hv
      · cases h

theorem distinct_of_pair? {cs r : List Char} {p : List String × Value}
    (h : pair? value cs = some (p, r)) : p.2.Distinct := by
  obtain ⟨⟨path, r'⟩, -, h⟩ := Option.bind_eq_some_iff.1 h
  obtain ⟨r'', -, h⟩ := Option.bind_eq_some_iff.1 h
  obtain ⟨⟨v, r'''⟩, hv, h⟩ := Option.bind_eq_some_iff.1 h
  cases h
  exact hvalue hv

theorem distinct_of_pairs? {fuel : Nat} {cs r : List Char} {ps : List (List String × Value)}
    (h : pairs? value fuel cs = some (ps, r)) : ∀ p ∈ ps, p.2.Distinct := by
  induction fuel generalizing cs ps with
  | zero => cases h
  | succ fuel ih =>
    obtain ⟨⟨p, r'⟩, hp, h⟩ := Option.bind_eq_some_iff.1 h
    have hp := distinct_of_pair? hvalue hp
    dsimp only at h
    split at h
    · obtain ⟨⟨ps', r''⟩, hps, h⟩ := Option.bind_eq_some_iff.1 h
      cases h
      exact List.forall_mem_cons.2 ⟨hp, ih hps⟩
    · cases h
      simpa using hp
    · cases h

theorem readsDistinct_braces? : ReadsDistinct (braces? value) := by
  intro cs v r h
  unfold braces? at h
  split at h
  · cases h
    exact .table .nil (by simp)
  · obtain ⟨⟨ps, r'⟩, hps, h⟩ := Option.bind_eq_some_iff.1 h
    obtain ⟨t, ht, h⟩ := Option.bind_eq_some_iff.1 h
    cases h
    refine Value.distinct_table_iff.2 (Table.distinct_of_ofStatements? ?_ ht)
    exact List.forall_mem_map.2 (distinct_of_pairs? hvalue hps)

omit hvalue

theorem readsDistinct_value? (depth : Nat) : ReadsDistinct (value? depth) := by
  induction depth with
  | zero => exact readsDistinct_scalar?
  | succ depth ih =>
    intro cs v r h
    simp only [value?] at h
    split at h
    · obtain ⟨⟨vs, r'⟩, hvs, heq⟩ := Option.map_eq_some_iff.1 h
      cases heq
      exact .list (distinct_of_elements? ih hvs)
    · exact readsDistinct_braces? ih h
    · exact readsDistinct_scalar? h

theorem distinct_of_statement? {cs r : List Char} {line : Statement}
    (h : statement? cs = some (line, r)) : line.Distinct := by
  unfold statement? at h
  split at h
  · obtain ⟨⟨path, r'⟩, -, h⟩ := Option.bind_eq_some_iff.1 h
    simp only [bind, Option.bind_eq_some_iff] at h
    obtain ⟨_, -, _, -, _, -, h⟩ := h
    cases h
    trivial
  · obtain ⟨⟨path, r'⟩, -, h⟩ := Option.bind_eq_some_iff.1 h
    simp only [bind, Option.bind_eq_some_iff] at h
    obtain ⟨_, -, _, -, h⟩ := h
    cases h
    trivial
  · obtain ⟨⟨⟨path, v⟩, r'⟩, hv, h⟩ := Option.bind_eq_some_iff.1 h
    obtain ⟨_, -, h⟩ := Option.bind_eq_some_iff.1 h
    cases h
    exact distinct_of_pair? (readsDistinct_value? _) hv

theorem distinct_of_statements? {fuel : Nat} {cs : List Char} {lines : List Statement}
    (h : statements? fuel cs = some lines) : ∀ line ∈ lines, line.Distinct := by
  induction fuel generalizing cs lines with
  | zero => cases h
  | succ fuel ih =>
    rw [statements?] at h
    split at h
    · cases h
      simp
    · obtain ⟨⟨line, r⟩, hline, h⟩ := Option.bind_eq_some_iff.1 h
      obtain ⟨lines', hlines, h⟩ := Option.bind_eq_some_iff.1 h
      cases h
      exact List.forall_mem_cons.2 ⟨distinct_of_statement? hline, ih hlines⟩

end Document

theorem distinct_of_parse? {s : String} {t : Table} (h : parse? s = some t) : t.Distinct := by
  obtain ⟨lines, hlines, ht⟩ := Option.bind_eq_some_iff.1 h
  exact Table.distinct_of_ofStatements? (Document.distinct_of_statements? hlines) ht

end RootedRun.Toml
