import RootedRun.Proofs.Toml.Distinct

namespace RootedRun.Toml.Written

/-! ### Texts -/

def lastDigits : Nat → Nat → List Char
  | 0, _ => []
  | count + 1, n => lastDigits count (n / 16) ++ [Text.Hex.digit (n % 16)]

def escape (c : Char) : List Char :=
  if isPlain c ∧ c ≠ '"' ∧ c ≠ '\\' then [c] else '\\' :: 'U' :: lastDigits 8 c.toNat

def quoted (s : String) : List Char := '"' :: (s.toList.flatMap escape ++ ['"'])

theorem readOnto_lastDigits {count n : Nat} (h : n < Nat.pow 16 count) :
    Text.Hex.readOnto 0 (lastDigits count n) = some n := by
  induction count generalizing n with
  | zero =>
    obtain rfl : n = 0 := Nat.lt_one_iff.1 h
    rfl
  | succ count ih =>
    have hrest : n / 16 < Nat.pow 16 count := Nat.div_lt_of_lt_mul (Nat.mul_comm .. ▸ h)
    rw [lastDigits, Text.Hex.readOnto_append, ih hrest, Option.bind_some, Text.Hex.readOnto,
      Text.Hex.value?_digit (Nat.mod_lt _ (by decide)), Option.bind_some, Text.Hex.readOnto,
      Nat.div_add_mod']

theorem ofNumber?_lastDigits (c : Char) : Quoted.ofNumber? (lastDigits 8 c.toNat) = some c := by
  have hread : Text.Hex.readOnto 0 (lastDigits 8 c.toNat) = some c.toNat :=
    readOnto_lastDigits c.val.toNat_lt
  exact (congrArg (Option.bind · Text.Literal.scalar?) hread).trans (Text.Literal.scalar?_toNat c)

theorem line_escape_append (c : Char) (r : List Char) :
    Quoted.line (escape c ++ r) = Quoted.before c (Quoted.line r) := by
  unfold escape
  split
  · next h =>
    obtain ⟨hplain, hquote, hslash⟩ := h
    rw [List.singleton_append, Quoted.line] <;> simp_all
  · have h := ofNumber?_lastDigits c
    simp only [lastDigits, List.cons_append, List.nil_append] at h
    simp only [lastDigits, List.cons_append, List.nil_append, Quoted.line, h]
    rfl

theorem line_escaped (cs r : List Char) :
    Quoted.line (cs.flatMap escape ++ '"' :: r) = some (cs, r) := by
  induction cs with
  | nil => rfl
  | cons c cs ih => rw [List.flatMap_cons, List.append_assoc, line_escape_append, ih]; rfl

theorem quoted_append (s : String) (r : List Char) :
    quoted s ++ r = '"' :: (s.toList.flatMap escape ++ '"' :: r) := by
  simp [quoted]

theorem escape_ne_quote (c : Char) (r r' : List Char) : escape c ++ r ≠ '"' :: r' := by
  unfold escape
  split
  · next h => simp [h.2.1]
  · simp

theorem text?_quoted_append (s : String) {r : List Char} (hr : ∀ r', r ≠ '"' :: r') :
    Quoted.text? (quoted s ++ r) = some (s, r) := by
  have hline := line_escaped s.toList r
  -- three quotes would open a text on several lines
  have hthree : ∀ r', s.toList.flatMap escape ++ '"' :: r ≠ '"' :: '"' :: r' := by
    intro r'
    cases s.toList with
    | nil => simpa using hr r'
    | cons c cs => simpa using escape_ne_quote c _ _
  rw [quoted_append]
  generalize s.toList.flatMap escape ++ '"' :: r = cs at hline hthree
  rw [Quoted.text?]
  · simp [hline]
  · exact hthree

theorem name?_quoted_append (s : String) (r : List Char) :
    Document.name? (quoted s ++ r) = some (s, r) := by
  rw [quoted_append, Document.name?, List.takeWhile_cons_of_neg (by decide)]
  simp [Quoted.name?, line_escaped]

/-! ### Values -/

theorem skipBlanks_quoted (s : String) (r : List Char) :
    skipBlanks (quoted s ++ r) = quoted s ++ r := by
  rw [quoted_append]
  exact List.dropWhile_cons_of_neg (by decide)

theorem skipSpace_quoted (s : String) (r : List Char) :
    skipSpace false (quoted s ++ r) = quoted s ++ r := by
  simp [quoted_append, skipSpace, isBlank]

theorem value?_quoted_append (depth : Nat) (s : String) {r : List Char} (hr : ∀ r', r ≠ '"' :: r') :
    Document.value? depth (quoted s ++ r) = some (.text s, r) := by
  have hscalar : Document.scalar? (quoted s ++ r) = some (.text s, r) := by
    have h := text?_quoted_append s hr
    rw [quoted_append] at h ⊢
    rw [Document.scalar?, h]
    rfl
  cases depth with
  | zero => exact hscalar
  | succ depth =>
    rw [quoted_append] at hscalar ⊢
    simpa [Document.value?] using hscalar

def elements (ds : List String) : List Char := ds.flatMap fun d => quoted d ++ [',']

def list (ds : List String) : List Char := '[' :: (elements ds ++ [']'])

theorem elements?_written (depth : Nat) (ds : List String) (r : List Char) {fuel : Nat}
    (h : ds.length < fuel) :
    Document.elements? (Document.value? depth) fuel (elements ds ++ ']' :: r) =
      some (ds.map .text, r) := by
  induction ds generalizing fuel with
  | nil =>
    obtain ⟨fuel, rfl⟩ := Nat.exists_eq_succ_of_ne_zero (Nat.ne_of_gt h)
    simp [elements, Document.elements?, skipSpace, isBlank]
  | cons d ds ih =>
    obtain ⟨fuel, rfl⟩ := Nat.exists_eq_succ_of_ne_zero (Nat.ne_zero_of_lt h)
    have hrest := ih (Nat.lt_of_succ_lt_succ h)
    have htext := value?_quoted_append depth d (r := ',' :: (elements ds ++ ']' :: r)) (by simp)
    have hcs : elements (d :: ds) ++ ']' :: r = quoted d ++ ',' :: (elements ds ++ ']' :: r) := by
      simp [elements]
    rw [hcs, Document.elements?, skipSpace_quoted]
    rw [quoted_append] at htext ⊢
    simp [htext, hrest, skipSpace, isBlank]

theorem length_le_length_elements (ds : List String) : ds.length ≤ (elements ds).length := by
  induction ds with
  | nil => exact Nat.zero_le _
  | cons d ds ih =>
    simp only [elements, List.flatMap_cons, List.length_append, List.length_cons] at ih ⊢
    omega

theorem value?_list_append (depth : Nat) (ds : List String) (r : List Char) :
    Document.value? (depth + 1) (list ds ++ r) = some (.list (ds.map .text), r) := by
  have h : ds.length < (elements ds ++ ']' :: r).length := by
    have := length_le_length_elements ds
    simp only [List.length_append, List.length_cons]
    omega
  have hcs : list ds ++ r = '[' :: (elements ds ++ ']' :: r) := by simp [list]
  simp only [hcs, Document.value?, elements?_written depth ds r h, Option.map_some]

/-! ### Lines -/

/-- Some characters that are read as a line, whatever comes after them. -/
def ReadsAs (cs : List Char) (line : Statement) : Prop :=
  cs ≠ [] ∧ ∀ r, skipSpace false (cs ++ r) = cs ++ r ∧ Document.statement? (cs ++ r) = some (line, r)

def pair (name : String) (value : List Char) : List Char :=
  quoted name ++ '=' :: (value ++ ['\n'])

def header (name : String) : List Char := '[' :: (quoted name ++ [']', '\n'])

theorem path?_quoted (name : String) {c : Char} (hdot : c ≠ '.') (hblank : isBlank c = false)
    (r : List Char) : Document.path? (quoted name ++ c :: r) = some ([name], c :: r) := by
  have hskip : skipBlanks (c :: r) = c :: r := List.dropWhile_cons_of_neg (by simp [hblank])
  rw [Document.path?, maxDepth, Document.names?, skipBlanks_quoted, name?_quoted_append]
  simp only [bind, Option.bind_some, hskip]
  split
  · next h => simp_all
  · rfl

theorem pair?_quoted (name : String) {value : Document.ReadValue} {v : Value} {r r' : List Char}
    (h : value (skipBlanks r) = some (v, r')) :
    Document.pair? value (quoted name ++ '=' :: r) = some (([name], v), r') := by
  simp [Document.pair?, path?_quoted name (c := '=') (by decide) rfl r, expect?, h]

theorem readsAs_pair (name : String) {value : List Char} {v : Value}
    (hblank : ∀ r, skipBlanks (value ++ r) = value ++ r)
    (h : ∀ r, Document.value? (maxDepth - 1) (value ++ '\n' :: r) = some (v, '\n' :: r)) :
    ReadsAs (pair name value) (.value [name] v) := by
  refine ⟨by simp [pair, quoted], fun r => ?_⟩
  have hcs : pair name value ++ r = quoted name ++ '=' :: (value ++ '\n' :: r) := by simp [pair]
  rw [hcs]
  refine ⟨skipSpace_quoted _ _, ?_⟩
  -- nothing is skipped between the sign and the value
  have hvalue := h r
  rw [← hblank] at hvalue
  have hpair := pair?_quoted name hvalue
  rw [quoted_append] at hpair ⊢
  simp only [Document.statement?, hpair]
  rfl

theorem readsAs_text (name s : String) :
    ReadsAs (pair name (quoted s)) (.value [name] (.text s)) :=
  readsAs_pair name (skipBlanks_quoted s) fun _ => value?_quoted_append _ s (by simp)

theorem readsAs_list (name : String) (ds : List String) :
    ReadsAs (pair name (list ds)) (.value [name] (.list (ds.map .text))) :=
  readsAs_pair name (fun _ => List.dropWhile_cons_of_neg (by decide)) fun _ => value?_list_append ..

theorem readsAs_header (name : String) : ReadsAs (header name) (.header [name]) := by
  refine ⟨by simp [header], fun r => ⟨by simp [header, skipSpace, isBlank], ?_⟩⟩
  have hcs : header name ++ r = '[' :: (quoted name ++ ']' :: '\n' :: r) := by simp [header]
  have hpath := path?_quoted name (c := ']') (by decide) rfl ('\n' :: r)
  rw [hcs]
  rw [quoted_append] at hpath ⊢
  simp [Document.statement?, hpath, expect?, restOfLine?, skipBlanks, isBlank, lineEnd?]

theorem statements?_written {lines : List (List Char × Statement)}
    (h : ∀ l ∈ lines, ReadsAs l.1 l.2) {fuel : Nat} (hfuel : lines.length < fuel) :
    Document.statements? fuel (lines.flatMap Prod.fst) = some (lines.map Prod.snd) := by
  induction lines generalizing fuel with
  | nil =>
    obtain ⟨fuel, rfl⟩ := Nat.exists_eq_succ_of_ne_zero (Nat.ne_of_gt hfuel)
    rfl
  | cons l lines ih =>
    obtain ⟨fuel, rfl⟩ := Nat.exists_eq_succ_of_ne_zero (Nat.ne_zero_of_lt hfuel)
    obtain ⟨hl, h⟩ := List.forall_mem_cons.1 h
    obtain ⟨hne, hl⟩ := hl
    obtain ⟨hspace, hstatement⟩ := hl (lines.flatMap Prod.fst)
    rw [List.flatMap_cons, Document.statements?, hspace]
    split
    · next heq => exact absurd (List.append_eq_nil_iff.1 heq).1 hne
    · rw [hstatement]
      simp [ih h (Nat.lt_of_succ_lt_succ hfuel)]

theorem length_le_length_lines {lines : List (List Char × Statement)}
    (h : ∀ l ∈ lines, ReadsAs l.1 l.2) : lines.length ≤ (lines.flatMap Prod.fst).length := by
  induction lines with
  | nil => exact Nat.zero_le _
  | cons l lines ih =>
    obtain ⟨hl, h⟩ := List.forall_mem_cons.1 h
    have := List.length_pos_iff.2 hl.1
    have := ih h
    simp only [List.flatMap_cons, List.length_append, List.length_cons]
    omega

theorem parse?_lines {lines : List (List Char × Statement)} (h : ∀ l ∈ lines, ReadsAs l.1 l.2)
    (hmark : ∀ r, lines.flatMap Prod.fst ≠ '\ufeff' :: r) :
    parse? (String.ofList (lines.flatMap Prod.fst)) = Table.ofStatements? (lines.map Prod.snd) := by
  have hskip : Document.skipMark (lines.flatMap Prod.fst) = lines.flatMap Prod.fst := by
    unfold Document.skipMark
    split
    · next heq => exact absurd heq (hmark _)
    · rfl
  have hfuel := Nat.lt_succ_of_le (length_le_length_lines h)
  simp only [parse?, String.toList_ofList, hskip, statements?_written h hfuel]
  rfl

/-! ### Tables -/

def values (t : Table) : List Statement := t.map fun e => .value [e.1] e.2

def drafts (t : Table) : Draft.Entries := t.map fun e => (e.1, .value e.2)

theorem names_drafts (t : Table) : (drafts t).map Prod.fst = t.map Prod.fst := by
  simp [drafts, Function.comp_def]

section

variable {es : Draft.Entries} {name : String} (h : name ∉ es.map Prod.fst)

include h

theorem set_of_not_mem (d : Draft) : Draft.set name d es = es ++ [(name, d)] := by
  induction es with
  | nil => rfl
  | cons e es ih =>
    rw [List.map_cons, List.mem_cons, not_or] at h
    rw [Draft.set, if_neg (Ne.symm h.1), ih h.2, List.cons_append]

theorem set_last (d d' : Draft) : Draft.set name d' (es ++ [(name, d)]) = es ++ [(name, d')] := by
  induction es with
  | nil => simp [Draft.set]
  | cons e es ih =>
    rw [List.map_cons, List.mem_cons, not_or] at h
    rw [List.cons_append, Draft.set, if_neg (Ne.symm h.1), ih h.2, List.cons_append]

theorem get?_last (d : Draft) : Draft.get? name (es ++ [(name, d)]) = some d := by
  have hnone : es.find? (·.1 = name) = none := by
    simpa [Draft.get?] using Draft.get?_eq_none_iff.2 h
  simp [Draft.get?, List.find?_append, hnone]

theorem add_value (v : Value) :
    Draft.add [] es (.value [name] v) = some ([], es ++ [(name, .value v)]) := by
  simp [Draft.add, Draft.descend, Draft.addValue, Draft.get?_eq_none_iff.2 h, set_of_not_mem h]

theorem add_header (current : List String) :
    Draft.add current es (.header [name]) = some ([name], es ++ [(name, .table .header [])]) := by
  simp [Draft.add, Draft.descend, Draft.addHeader, Draft.get?_eq_none_iff.2 h, set_of_not_mem h]

theorem add_value_below {es' : Draft.Entries} {name' : String} (h' : name' ∉ es'.map Prod.fst)
    (v : Value) :
    Draft.add [name] (es ++ [(name, .table .header es')]) (.value [name'] v) =
      some ([name], es ++ [(name, .table .header (es' ++ [(name', .value v)]))]) := by
  simp [Draft.add, Draft.descend, Draft.addValue, get?_last h, Draft.get?_eq_none_iff.2 h',
    set_of_not_mem h', set_last h]

end

def addLine (s : List String × Draft.Entries) (line : Statement) :
    Option (List String × Draft.Entries) := Draft.add s.1 s.2 line

theorem foldlM_values (place : Draft.Entries → List String × Draft.Entries)
    (hplace : ∀ es name v, name ∉ es.map Prod.fst →
      addLine (place es) (.value [name] v) = some (place (es ++ [(name, .value v)])))
    (front t : Table) (h : ((front ++ t).map Prod.fst).Nodup) :
    (values t).foldlM addLine (place (drafts front)) = some (place (drafts (front ++ t))) := by
  induction t generalizing front with
  | nil => simp [values]
  | cons e t ih =>
    have hname : e.1 ∉ (drafts front).map Prod.fst := by
      rw [names_drafts]
      intro hmem
      rw [List.map_append, List.map_cons] at h
      exact (List.nodup_append.1 h).2.2 _ hmem _ List.mem_cons_self rfl
    have hdrafts : drafts front ++ [(e.1, .value e.2)] = drafts (front ++ [e]) := by simp [drafts]
    have hrest := ih (front ++ [e]) (by simpa using h)
    rw [List.append_assoc, List.singleton_append] at hrest
    rw [values, List.map_cons, List.foldlM_cons, hplace _ _ _ hname, hdrafts]
    exact hrest

theorem ofStatements?_written {front t : Table} {name : String}
    (hfront : (front.map Prod.fst).Nodup) (hname : name ∉ front.map Prod.fst)
    (ht : (t.map Prod.fst).Nodup) :
    Table.ofStatements? (values front ++ .header [name] :: values t) =
      some (front ++ [(name, .table t)]) := by
  rw [← names_drafts] at hname
  have hlines : (values front).foldlM addLine ([], []) = some ([], drafts front) :=
    foldlM_values (fun es => ([], es)) (fun es name v h => add_value h v) [] front hfront
  have hbelow : (values t).foldlM addLine ([name], drafts front ++ [(name, .table .header [])]) =
      some ([name], drafts front ++ [(name, .table .header (drafts t))]) :=
    foldlM_values (fun es => ([name], drafts front ++ [(name, Draft.table .header es)]))
      (fun es name' v h => add_value_below hname h v) [] t ht
  have hall : (values front ++ .header [name] :: values t).foldlM addLine ([], []) =
      some ([name], drafts front ++ [(name, .table .header (drafts t))]) := by
    rw [List.foldlM_append, hlines]
    exact (congrArg (Option.bind · _) (add_header hname [])).trans hbelow
  refine (congrArg (Option.map _) hall).trans ?_
  simp [Draft.toTable_eq_map, drafts, Draft.toValue, Function.comp_def]

end RootedRun.Toml.Written
