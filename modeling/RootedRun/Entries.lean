/-!
Lists of named texts with one entry for each name, in the byte order of the names. Writing a name
again replaces its entry, so the last write is the one that is read.
-/

namespace RootedRun.Text

def bytes (s : String) : List UInt8 := s.toByteArray.data.toList

theorem bytes_inj {s t : String} : bytes s = bytes t ↔ s = t := by
  refine ⟨fun h => String.toByteArray_inj.1 ?_, fun h => h ▸ rfl⟩
  exact ByteArray.ext (Array.toList_inj.1 h)

def Before (s t : String) : Prop := bytes s < bytes t

instance : DecidableRel Before := fun s t => inferInstanceAs (Decidable (bytes s < bytes t))

theorem Before.irrefl (s : String) : ¬ Before s s := List.lt_irrefl _

theorem Before.trans {r s t : String} (h : Before r s) (h' : Before s t) : Before r t :=
  List.lt_trans h h'

theorem Before.asymm {s t : String} (h : Before s t) : ¬ Before t s :=
  fun h' => Before.irrefl s (h.trans h')

theorem eq_of_not_before {s t : String} (h : ¬ Before s t) (h' : ¬ Before t s) : s = t :=
  bytes_inj.1 (List.le_antisymm (List.not_lt.1 h') (List.not_lt.1 h))

theorem before_or_eq_or_before (s t : String) : Before s t ∨ s = t ∨ Before t s :=
  if h : Before s t then .inl h
  else if h' : Before t s then .inr (.inr h')
  else .inr (.inl (eq_of_not_before h h'))

theorem not_before_trans {r s t : String} (h : ¬ Before s r) (h' : ¬ Before t s) : ¬ Before t r :=
  List.not_lt.2 (List.le_trans (List.not_lt.1 h) (List.not_lt.1 h'))

theorem not_before_total (s t : String) : ¬ Before t s ∨ ¬ Before s t :=
  if h : Before t s then .inr h.asymm else .inl h

end RootedRun.Text

namespace RootedRun

abbrev Entries := List (String × String)

namespace Entries

def Ordered (es : Entries) : Prop := es.Pairwise fun a b => Text.Before a.1 b.1

instance (es : Entries) : Decidable es.Ordered :=
  inferInstanceAs (Decidable (es.Pairwise fun a b => Text.Before a.1 b.1))

def put (name value : String) : Entries → Entries
  | [] => [(name, value)]
  | e :: es =>
    if Text.Before name e.1 then (name, value) :: e :: es
    else if name = e.1 then (name, value) :: es
    else e :: put name value es

def get? (name : String) : Entries → Option String
  | [] => none
  | e :: es => if e.1 = name then some e.2 else get? name es

def lastOfEach : List (String × String) → Entries
  | [] => []
  | [e] => [e]
  | e :: e' :: es => if e.1 = e'.1 then lastOfEach (e' :: es) else e :: lastOfEach (e' :: es)

def notAfter (a b : String × String) : Bool := ¬ Text.Before b.1 a.1

def sort (es : List (String × String)) : List (String × String) := es.mergeSort notAfter

def collect (es : List (String × String)) : Entries := lastOfEach (sort es)

theorem mem_put {name value : String} {a : String × String} {es : Entries}
    (h : a ∈ put name value es) : a = (name, value) ∨ a ∈ es := by
  induction es with
  | nil => simpa [put] using h
  | cons e es ih => grind [put]

theorem Ordered.put {es : Entries} (h : Ordered es) (name value : String) :
    Ordered (put name value es) := by
  induction es with
  | nil => simp [Ordered, Entries.put]
  | cons e es ih =>
    have ⟨he, hes⟩ := List.pairwise_cons.1 h
    simp only [Entries.put]
    split
    · next hlt =>
      refine List.pairwise_cons.2 ⟨fun a ha => ?_, h⟩
      rcases List.mem_cons.1 ha with rfl | ha
      · exact hlt
      · exact hlt.trans (he a ha)
    · next hlt =>
      split
      · next heq => exact List.pairwise_cons.2 ⟨fun a ha => heq ▸ he a ha, hes⟩
      · next hne =>
        refine List.pairwise_cons.2 ⟨fun a ha => ?_, ih hes⟩
        rcases mem_put ha with rfl | ha
        · rcases Text.before_or_eq_or_before e.1 name with h | h | h
          · exact h
          · exact absurd h.symm hne
          · exact absurd h hlt
        · exact he a ha

theorem mem_lastOfEach {a : String × String} {es : List (String × String)}
    (h : a ∈ lastOfEach es) : a ∈ es := by
  induction es using lastOfEach.induct with
  | case1 => exact h
  | case2 e => exact h
  | case3 e e' es heq ih =>
    rw [lastOfEach, if_pos heq] at h
    exact List.mem_cons_of_mem _ (ih h)
  | case4 e e' es hne ih =>
    rw [lastOfEach, if_neg hne] at h
    rcases List.mem_cons.1 h with rfl | h
    · exact List.mem_cons_self
    · exact List.mem_cons_of_mem _ (ih h)

theorem ordered_lastOfEach {es : List (String × String)}
    (h : es.Pairwise fun a b => ¬ Text.Before b.1 a.1) : Ordered (lastOfEach es) := by
  induction es using lastOfEach.induct with
  | case1 => exact .nil
  | case2 e => exact .cons (by simp) .nil
  | case3 e e' es heq ih =>
    rw [lastOfEach, if_pos heq]
    exact ih h.of_cons
  | case4 e e' es hne ih =>
    rw [lastOfEach, if_neg hne]
    have ⟨he, hes⟩ := List.pairwise_cons.1 h
    have hlt : Text.Before e.1 e'.1 := by
      rcases Text.before_or_eq_or_before e.1 e'.1 with hlt | heq | hgt
      · exact hlt
      · exact absurd heq hne
      · exact absurd hgt (he e' List.mem_cons_self)
    refine .cons (fun a ha => ?_) (ih hes)
    rcases List.mem_cons.1 (mem_lastOfEach ha) with rfl | ha
    · exact hlt
    · rcases Text.before_or_eq_or_before e'.1 a.1 with hlt' | heq | hgt
      · exact hlt.trans hlt'
      · exact heq ▸ hlt
      · exact absurd hgt ((List.pairwise_cons.1 hes).1 a ha)

theorem notAfter_trans (a b c : String × String) (h : notAfter a b = true)
    (h' : notAfter b c = true) : notAfter a c = true :=
  decide_eq_true (Text.not_before_trans (of_decide_eq_true h) (of_decide_eq_true h'))

theorem notAfter_total (a b : String × String) : (notAfter a b || notAfter b a) = true := by
  simpa [notAfter] using Text.not_before_total a.1 b.1

theorem pairwise_sort (es : List (String × String)) :
    (sort es).Pairwise fun a b => ¬ Text.Before b.1 a.1 := by
  have h : (sort es).Pairwise fun a b => notAfter a b = true :=
    List.pairwise_mergeSort notAfter_trans notAfter_total es
  exact h.imp of_decide_eq_true

theorem ordered_collect (es : List (String × String)) : Ordered (collect es) :=
  ordered_lastOfEach (pairwise_sort es)

@[simp] theorem get?_put_self (name value : String) (es : Entries) :
    get? name (put name value es) = some value := by
  induction es with
  | nil => simp [put, get?]
  | cons e es ih => grind [put, get?]

theorem get?_put_of_ne {name other : String} (h : name ≠ other) (value : String) (es : Entries) :
    get? other (put name value es) = get? other es := by
  induction es with
  | nil => simp [put, get?, h]
  | cons e es ih => grind [put, get?]

end Entries

end RootedRun
