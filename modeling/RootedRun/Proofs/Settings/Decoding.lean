import Mathlib.Data.Set.List
import RootedRun.Proofs.Aliases.LastWrite
import RootedRun.Proofs.Toml.Written

/-!
Which texts are settings, and which settings they are. Main statement: a text is refused exactly
where it is no document or one of three names in it has a value of the wrong kind, and otherwise
the settings are what stands under these names, whatever else there is and in whatever order.
-/

namespace RootedRun

def Toml.Value.IsText (v : Value) : Prop := ∃ s, v = .text s

def Toml.Value.moment? : Value → Option Moment
  | .moment m => some m
  | _ => none

namespace Settings

open Toml (Table Value)
open Toml.Written

/-! ### Values of one kind -/

theorem text?_eq_some_iff {v : Value} {s : String} : v.text? = some s ↔ v = .text s := by
  cases v <;> simp [Value.text?]

theorem texts?_eq_some_iff {vs : List Value} {ds : List String} :
    texts? vs = some ds ↔ vs = ds.map .text := by
  unfold texts?
  induction vs generalizing ds with
  | nil => cases ds <;> simp
  | cons v vs ih =>
    rw [List.mapM_cons]
    cases ds with
    | nil => simp [bind, Option.bind_eq_some_iff]
    | cons d ds => simp [bind, Option.bind_eq_some_iff, text?_eq_some_iff, ih]

theorem named?_eq_some_iff {c : Table} {es : List (String × String)} :
    named? c = some es ↔ c = textTable es := by
  refine ⟨fun h => ?_, fun h => h ▸ named?_textTable es⟩
  unfold named? at h
  induction c generalizing es with
  | nil => cases h; rfl
  | cons e c ih =>
    rw [List.mapM_cons] at h
    obtain ⟨e', he, h⟩ := Option.bind_eq_some_iff.1 h
    obtain ⟨es', hes, h⟩ := Option.bind_eq_some_iff.1 h
    obtain ⟨s, hs, rfl⟩ := Option.map_eq_some_iff.1 he
    cases h
    rw [ih hes, textTable, textTable, List.map_cons, ← text?_eq_some_iff.1 hs]

theorem forall_isText_iff {vs : List Value} :
    (∀ v ∈ vs, v.IsText) ↔ ∃ ds : List String, vs = ds.map .text := by
  have h := Set.ext_iff.1 (Set.range_list_map Value.text) vs
  simpa [Value.IsText, eq_comm] using h.symm

theorem forall_named_isText_iff {c : Table} :
    (∀ e ∈ c, e.2.IsText) ↔ ∃ es, c = textTable es := by
  have h := Set.ext_iff.1 (Set.range_list_map fun e : String × String => (e.1, Value.text e.2)) c
  simpa [Value.IsText, textTable, Prod.ext_iff, eq_comm] using h.symm

theorem names_textTable (es : List (String × String)) :
    (textTable es).map Prod.fst = es.map Prod.fst := by
  simp [textTable, Function.comp_def]

theorem mem_textTable {es : List (String × String)} {name target : String} :
    (name, Value.text target) ∈ textTable es ↔ (name, target) ∈ es := by
  simp [textTable]

/-! ### The three settings -/

theorem aliases?_table_eq_some_iff {c : Table} (hnames : (c.map Prod.fst).Nodup) {m : Aliases} :
    aliases? (some (.table c)) = some m ↔ (∀ e ∈ c, e.2.IsText) ∧
      ∀ name target, m.get? name = some target ↔ (name, .text target) ∈ c := by
  rw [forall_named_isText_iff]
  -- without repeated names the aliases that are made of a table are those it lists
  have hget {es : List (String × String)} (h : c = textTable es) (name target : String) :
      (Aliases.ofList es).get? name = some target ↔ (name, .text target) ∈ c := by
    rw [Aliases.get?_ofList, Entries.last?_eq_some_iff (names_textTable es ▸ h ▸ hnames), h,
      mem_textTable]
  constructor
  · intro h
    obtain ⟨es, hes, rfl⟩ := Option.map_eq_some_iff.1 h
    have hes := named?_eq_some_iff.1 hes
    exact ⟨⟨es, hes⟩, hget hes⟩
  · rintro ⟨⟨es, hes⟩, hm⟩
    refine Option.map_eq_some_iff.2 ⟨es, named?_eq_some_iff.2 hes, Aliases.get?_inj.2 fun name => ?_⟩
    exact Option.ext fun target => (hget hes name target).trans (hm name target).symm

theorem aliases?_moment_eq_some_iff {moment : Toml.Moment} {m : Aliases} :
    aliases? (some (.moment moment)) = some m ↔ m.entries = [(momentName, moment.text)] := by
  rw [aliases?, Option.some_inj, eq_comm]
  exact ⟨fun h => h ▸ rfl, fun h => Aliases.ext h⟩

theorem exists_aliases?_iff {v : Value} :
    (∃ m, aliases? (some v) = some m) ↔
      (∃ c, v = .table c ∧ ∀ e ∈ c, e.2.IsText) ∨ ∃ moment, v = .moment moment := by
  simp only [forall_named_isText_iff]
  cases v with
  | table c => simp [aliases?, Option.map_eq_some_iff, named?_eq_some_iff]
  | _ => simp [aliases?]

theorem root?_eq_some_iff {v : Value} {r : Option String} :
    root? (some v) = some r ↔ ∃ s, v = .text s ∧ r = some s := by
  simp [root?, text?_eq_some_iff, eq_comm (a := r)]

theorem searchPath?_eq_some_iff {v : Value} {p : Option (List String)} :
    searchPath? (some v) = some p ↔ ∃ ds, v = .list (ds.map .text) ∧ p = some ds := by
  cases v with
  | list vs => simp [searchPath?, texts?_eq_some_iff, eq_comm (a := p)]
  | _ => simp [searchPath?]

theorem ofTable?_eq_some_iff {t : Table} {s : Settings} :
    ofTable? t = some s ↔ aliases? (t.get? "command_map") = some s.aliases ∧
      root? (t.get? "chroot_dir") = some s.root ∧
      searchPath? (t.get? "search_path") = some s.searchPath := by
  obtain ⟨m, r, p⟩ := s
  simp [ofTable?, bind, Option.bind_eq_some_iff]

/-! ### Tables that are settings -/

/-- The three names have values of the right kinds, as far as they stand in the table. -/
structure Fits (t : Table) : Prop where
  aliases : ∀ v, ("command_map", v) ∈ t →
    (∃ c, v = .table c ∧ ∀ e ∈ c, e.2.IsText) ∨ ∃ moment, v = .moment moment
  root : ∀ v, ("chroot_dir", v) ∈ t → v.IsText
  searchPath : ∀ v, ("search_path", v) ∈ t → ∃ vs, v = .list vs ∧ ∀ w ∈ vs, w.IsText

def Holds {α : Type} (t : Table) (name : String) (form : α → Value) (a : Option α) : Prop :=
  (∃ x, (name, form x) ∈ t ∧ a = some x) ∨ (∀ v, (name, v) ∉ t) ∧ a = none

def HoldsAliases (t : Table) (m : Aliases) : Prop :=
  (∃ c, ("command_map", .table c) ∈ t ∧ (∀ e ∈ c, e.2.IsText) ∧
    ∀ name target, m.get? name = some target ↔ (name, .text target) ∈ c) ∨
  (∃ moment, ("command_map", .moment moment) ∈ t ∧ m.entries = [(momentName, moment.text)]) ∨
  (∀ v, ("command_map", v) ∉ t) ∧ m = .empty

/-- The settings are what the table says under the three names. -/
structure Says (t : Table) (s : Settings) : Prop where
  aliases : HoldsAliases t s.aliases
  root : Holds t "chroot_dir" .text s.root
  searchPath : Holds t "search_path" (fun ds : List String => .list (ds.map .text)) s.searchPath

section

variable {t : Table} (ht : t.Distinct) {s : Settings}

include ht

theorem holdsAliases_iff {m : Aliases} :
    aliases? (t.get? "command_map") = some m ↔ HoldsAliases t m := by
  simp only [HoldsAliases, ← ht.get?_eq_some_iff]
  cases hget : t.get? "command_map" with
  | none => simp [aliases?, eq_comm]
  | some v =>
    have hv := ht.2 _ (ht.get?_eq_some_iff.1 hget)
    cases v with
    | table c => simp [aliases?_table_eq_some_iff (Value.distinct_table_iff.1 hv).1]
    | moment m => simp [aliases?_moment_eq_some_iff]
    | _ => simp [aliases?]

theorem holds_iff {α : Type} (f : Option Value → Option (Option α)) (hnone : f none = some none)
    {form : α → Value} (hsome : ∀ v a, f (some v) = some a ↔ ∃ x, v = form x ∧ a = some x)
    {name : String} {a : Option α} : f (t.get? name) = some a ↔ Holds t name form a := by
  simp only [Holds, ← ht.get?_eq_some_iff]
  cases t.get? name with
  | none => simp [hnone, eq_comm]
  | some v => simp [hsome]

theorem ofTable?_iff_says : ofTable? t = some s ↔ Says t s := by
  rw [ofTable?_eq_some_iff, holdsAliases_iff ht, holds_iff ht root? rfl fun _ _ => root?_eq_some_iff,
    holds_iff ht searchPath? rfl fun _ _ => searchPath?_eq_some_iff]
  exact ⟨fun ⟨h, h', h''⟩ => ⟨h, h', h''⟩, fun ⟨h, h', h''⟩ => ⟨h, h', h''⟩⟩

theorem exists_get?_iff {α : Type} (f : Option Value → Option α) (hf : (f none).isSome)
    (name : String) :
    (∃ a, f (t.get? name) = some a) ↔ ∀ v, (name, v) ∈ t → ∃ a, f (some v) = some a := by
  simp only [← ht.get?_eq_some_iff]
  cases t.get? name with
  | none => simpa using Option.isSome_iff_exists.1 hf
  | some v => simp

theorem exists_ofTable?_iff : (∃ s, ofTable? t = some s) ↔ Fits t := by
  have hroot {v} : (∃ r, root? (some v) = some r) ↔ v.IsText := by
    simp [root?_eq_some_iff, Value.IsText]
  have hpath {v} : (∃ p, searchPath? (some v) = some p) ↔
      ∃ vs, v = .list vs ∧ ∀ w ∈ vs, w.IsText := by
    simp only [searchPath?_eq_some_iff, forall_isText_iff]
    constructor
    · rintro ⟨p, ds, hv, -⟩
      exact ⟨_, hv, ds, rfl⟩
    · rintro ⟨vs, hv, ds, rfl⟩
      exact ⟨_, ds, hv, rfl⟩
  have hthree : (∃ s, ofTable? t = some s) ↔ (∃ m, aliases? (t.get? "command_map") = some m) ∧
      (∃ r, root? (t.get? "chroot_dir") = some r) ∧
      ∃ p, searchPath? (t.get? "search_path") = some p := by
    simp only [ofTable?_eq_some_iff]
    exact ⟨fun ⟨s, h, h', h''⟩ => ⟨⟨_, h⟩, ⟨_, h'⟩, _, h''⟩,
      fun ⟨⟨m, h⟩, ⟨r, h'⟩, p, h''⟩ => ⟨⟨m, r, p⟩, h, h', h''⟩⟩
  rw [hthree, exists_get?_iff ht aliases? rfl, exists_get?_iff ht root? rfl,
    exists_get?_iff ht searchPath? rfl]
  simp only [exists_aliases?_iff, hroot, hpath]
  exact ⟨fun ⟨h, h', h''⟩ => ⟨h, h', h''⟩, fun ⟨h, h', h''⟩ => ⟨h, h', h''⟩⟩

end

/-! ### Tables with the same settings -/

/-- The same stands under the three names, but for the order in which the aliases are listed. -/
structure SameSettings (t t' : Table) : Prop where
  aliases : (∀ v, ("command_map", v) ∈ t ↔ ("command_map", v) ∈ t') ∨
    ∃ c c', c.Perm c' ∧ ("command_map", .table c) ∈ t ∧ ("command_map", .table c') ∈ t'
  root : ∀ v, ("chroot_dir", v) ∈ t ↔ ("chroot_dir", v) ∈ t'
  searchPath : ∀ v, ("search_path", v) ∈ t ↔ ("search_path", v) ∈ t'

theorem aliases?_table_perm {c c' : Table} (hnames : (c.map Prod.fst).Nodup) (h : c.Perm c') :
    aliases? (some (.table c)) = aliases? (some (.table c')) := by
  have hnames' : (c'.map Prod.fst).Nodup := (h.map Prod.fst).nodup_iff.1 hnames
  refine Option.ext fun m => ?_
  simp only [aliases?_table_eq_some_iff hnames, aliases?_table_eq_some_iff hnames', h.mem_iff]

theorem SameSettings.ofTable?_eq {t t' : Table} (h : SameSettings t t') (ht : t.Distinct)
    (ht' : t'.Distinct) : ofTable? t = ofTable? t' := by
  have haliases : aliases? (t.get? "command_map") = aliases? (t'.get? "command_map") := by
    rcases h.aliases with h | ⟨c, c', hperm, hc, hc'⟩
    · rw [ht.get?_congr ht' h]
    · rw [ht.get?_eq_some_iff.2 hc, ht'.get?_eq_some_iff.2 hc']
      exact aliases?_table_perm (Value.distinct_table_iff.1 (ht.2 _ hc)).1 hperm
  simp only [ofTable?, haliases, ht.get?_congr ht' h.root, ht.get?_congr ht' h.searchPath]

/-! ### Writing settings down -/

theorem says_of_perm_toTable {t : Table} {s : Settings} (h : t.Perm s.toTable) : Says t s where
  aliases := by
    refine .inl ⟨textTable s.aliases.entries, by simp [h.mem_iff, toTable],
      forall_named_isText_iff.2 ⟨_, rfl⟩, fun name target => ?_⟩
    rw [Aliases.get?_eq_some_iff, mem_textTable]
  root := by cases hroot : s.root <;> simp [Holds, h.mem_iff, toTable, hroot]
  searchPath := by cases hpath : s.searchPath <;> simp [Holds, h.mem_iff, toTable, hpath]

def lines (s : Settings) : List (List Char × Toml.Statement) :=
  (s.root.map fun dir =>
    (pair "chroot_dir" (quoted dir), .value ["chroot_dir"] (.text dir))).toList ++
  (s.searchPath.map fun ds =>
    (pair "search_path" (list ds), .value ["search_path"] (.list (ds.map .text)))).toList ++
  (header "command_map", .header ["command_map"]) ::
  s.aliases.entries.map fun e => (pair e.1 (quoted e.2), .value [e.1] (.text e.2))

def write (s : Settings) : String := String.ofList (s.lines.flatMap Prod.fst)

def front (s : Settings) : Table :=
  (s.root.map fun dir => ("chroot_dir", Value.text dir)).toList ++
    (s.searchPath.map fun ds => ("search_path", Value.list (ds.map .text))).toList

theorem readsAs_lines (s : Settings) : ∀ l ∈ s.lines, ReadsAs l.1 l.2 := by
  simp only [lines, List.forall_mem_append, List.forall_mem_cons, List.forall_mem_map]
  refine ⟨⟨?_, ?_⟩, readsAs_header _, fun e _ => readsAs_text ..⟩
  · cases s.root <;> simp [readsAs_text]
  · cases s.searchPath <;> simp [readsAs_list]

theorem map_snd_lines (s : Settings) : s.lines.map Prod.snd =
    values s.front ++ .header ["command_map"] :: values (textTable s.aliases.entries) := by
  cases hroot : s.root <;> cases hpath : s.searchPath <;>
    simp [lines, front, values, textTable, hroot, hpath, Function.comp_def]

theorem names_front (s : Settings) :
    (s.front.map Prod.fst).Sublist ["chroot_dir", "search_path"] := by
  cases hroot : s.root <;> cases hpath : s.searchPath <;> simp [front, hroot, hpath]

theorem parse?_write (s : Settings) : Toml.parse? s.write =
    some (s.front ++ [("command_map", .table (textTable s.aliases.entries))]) := by
  have hmark (r) : s.lines.flatMap Prod.fst ≠ '\ufeff' :: r := by
    cases hroot : s.root <;> cases hpath : s.searchPath <;>
      simp [lines, hroot, hpath, pair, header, quoted]
  rw [write, parse?_lines s.readsAs_lines hmark, map_snd_lines]
  exact ofStatements?_written (s.names_front.nodup (by decide))
    (fun h => absurd (s.names_front.subset h) (by decide))
    (names_textTable _ ▸ s.aliases.ordered.nodup)

theorem front_perm_toTable (s : Settings) :
    (s.front ++ [("command_map", Value.table (textTable s.aliases.entries))]).Perm s.toTable :=
  List.perm_append_singleton ..

/-! ### All texts -/

theorem parse?_eq_some_iff {text : String} {s : Settings} :
    parse? text = some s ↔ ∃ t, Toml.parse? text = some t ∧ Says t s := by
  refine Option.bind_eq_some_iff.trans (exists_congr fun t => and_congr_right fun h => ?_)
  exact ofTable?_iff_says (Toml.distinct_of_parse? h)

theorem parse?_eq_none_iff {text : String} :
    parse? text = none ↔ ∀ t, Toml.parse? text = some t → ¬ Fits t := by
  refine Option.bind_eq_none_iff.trans (forall_congr' fun t => forall_congr' fun h => ?_)
  rw [← exists_ofTable?_iff (Toml.distinct_of_parse? h), ← Option.isSome_iff_exists,
    Option.not_isSome_iff_eq_none]

theorem ofText_eq_ok_iff {origin text : String} {s : Settings} :
    ofText origin text = .ok s ↔ parse? text = some s := by
  unfold ofText
  cases parse? text <;> simp

theorem ofText_eq_error_iff {origin text : String} {e : SetupError} :
    ofText origin text = .error e ↔ e = .malformed origin ∧ parse? text = none := by
  unfold ofText
  cases parse? text <;> simp [eq_comm]

theorem ofInline_eq_ok_iff {text : String} {s : Settings} :
    ofInline text = .ok s ↔ parse? text = some s := ofText_eq_ok_iff

theorem ofInline_eq_error_iff {text : String} {e : SetupError} :
    ofInline text = .error e ↔ e = .malformed "<inline>" ∧ parse? text = none := ofText_eq_error_iff

/-- A moment is taken for a table with one entry where aliases are expected, and nowhere else. -/
theorem ofInline_exact (text : String) :
    (∀ e, ofInline text = .error e ↔
      e = .malformed "<inline>" ∧ ∀ t, Toml.parse? text = some t → ¬ Fits t) ∧
    (∀ s, ofInline text = .ok s ↔ ∃ t, Toml.parse? text = some t ∧ Says t s) ∧
    (∀ text' t t', Toml.parse? text = some t → Toml.parse? text' = some t' → SameSettings t t' →
      ofInline text' = ofInline text) ∧
    (∀ t c e, Toml.parse? text = some t → ("command_map", .table c) ∈ t → e ∈ c → ¬ e.2.IsText →
      ofInline text = .error (.malformed "<inline>")) ∧
    (∀ t vs v, Toml.parse? text = some t → ("search_path", .list vs) ∈ t → v ∈ vs → ¬ v.IsText →
      ofInline text = .error (.malformed "<inline>")) ∧
    (∀ s t, Toml.parse? text = some t → t.Perm s.toTable → ofInline text = .ok s) ∧
    (∀ s : Settings, ∃ t, Toml.parse? s.write = some t ∧ t.Perm s.toTable ∧
      ofInline s.write = .ok s) := by
  have hok {text s} : ofInline text = .ok s ↔ ∃ t, Toml.parse? text = some t ∧ Says t s :=
    ofInline_eq_ok_iff.trans parse?_eq_some_iff
  have herror {text e} : ofInline text = .error e ↔
      e = .malformed "<inline>" ∧ ∀ t, Toml.parse? text = some t → ¬ Fits t := by
    rw [ofInline_eq_error_iff, parse?_eq_none_iff]
  have hsays {text s t} (h : Toml.parse? text = some t) (hperm : t.Perm s.toTable) :
      ofInline text = .ok s := hok.2 ⟨t, h, says_of_perm_toTable hperm⟩
  have hunfit {t} (h : Toml.parse? text = some t) (hne : ¬ Fits t) :
      ofInline text = .error (.malformed "<inline>") :=
    herror.2 ⟨rfl, fun t' h' => Option.some_inj.1 (h.symm.trans h') ▸ hne⟩
  refine ⟨fun e => herror, fun s => hok, ?_, ?_, ?_, fun s t => hsays, fun s => ?_⟩
  · intro text' t t' h h' hsame
    have heq := hsame.ofTable?_eq (Toml.distinct_of_parse? h) (Toml.distinct_of_parse? h')
    simp only [ofInline, ofText, parse?, h, h', Option.bind_some, heq]
  · intro t c e h hc he hne
    refine hunfit h fun hfits => ?_
    rcases hfits.aliases _ hc with ⟨c', heq, htexts⟩ | ⟨moment, heq⟩
    · cases heq
      exact hne (htexts e he)
    · cases heq
  · intro t vs v h hvs hv hne
    refine hunfit h fun hfits => ?_
    obtain ⟨vs', heq, htexts⟩ := hfits.searchPath _ hvs
    cases heq
    exact hne (htexts v hv)
  · exact ⟨_, parse?_write s, front_perm_toTable s,
      hsays (parse?_write s) (front_perm_toTable s)⟩

/-- A date is no table of texts, and yet the text is not refused. -/
theorem ofInline_date :
    let text := "command_map = 1979-05-27\n"
    (∃ t v, Toml.parse? text = some t ∧ ("command_map", v) ∈ t ∧
      ¬ ∃ c, v = .table c ∧ ∀ e ∈ c, e.2.IsText) ∧
    ofInline text = .ok ⟨.ofList [("$__toml_private_datetime", "1979-05-27")], none, none⟩ := by
  intro text
  have hdate : ((Toml.parse? text).bind (Table.get? "command_map")).bind Value.moment? =
      some (.date ⟨1979, 5, 27⟩) := by decide +kernel
  refine ⟨?_, ofInline_eq_ok_iff.2 (by decide +kernel)⟩
  obtain ⟨v, hv, hmoment⟩ := Option.bind_eq_some_iff.1 hdate
  obtain ⟨t, ht, hget⟩ := Option.bind_eq_some_iff.1 hv
  refine ⟨t, v, ht, (Toml.distinct_of_parse? ht).get?_eq_some_iff.1 hget, ?_⟩
  rintro ⟨c, rfl, -⟩
  cases hmoment

end Settings

end RootedRun
