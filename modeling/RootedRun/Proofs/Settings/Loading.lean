import RootedRun.Host.Session
import RootedRun.Host.Setup
import RootedRun.Proofs.Settings.Decoding
import RootedRun.Proofs.Text.Utf8

namespace RootedRun.Settings

/-! ### Bytes -/

theorem decode_eq_ok_iff {bytes : ByteArray} {text : String} :
    decode bytes = .ok text ↔ text.toUTF8 = bytes := by
  unfold decode String.fromUTF8?
  by_cases h : bytes.IsValidUTF8
  · simp only [dif_pos h, Except.ok.injEq]
    exact ⟨fun heq => heq ▸ rfl, fun heq => String.toByteArray_inj.1 heq.symm⟩
  · simp only [dif_neg h, reduceCtorEq, false_iff]
    rintro rfl
    exact h text.isValidUTF8

theorem decode_eq_error_iff {bytes : ByteArray} {e : IoError} :
    decode bytes = .error e ↔ e = .notUtf8 ∧ ¬ Text.WellFormed bytes.data.toList := by
  rw [Text.wellFormed_iff_isValidUTF8]
  unfold decode String.fromUTF8?
  by_cases h : bytes.IsValidUTF8 <;> simp [h, eq_comm]

/-! ### Files -/

section

variable {read : String → Except IoError ByteArray} {path : String}

theorem load_of_unread {e : IoError} (h : read path = .error e) :
    load read path = .error (.unreadable path e) := by
  rw [load, h]
  rfl

theorem load_of_not_wellFormed {bytes : ByteArray} (h : read path = .ok bytes)
    (hbytes : ¬ Text.WellFormed bytes.data.toList) :
    load read path = .error (.unreadable path .notUtf8) := by
  have hdecode : decode bytes = .error .notUtf8 := decode_eq_error_iff.2 ⟨rfl, hbytes⟩
  rw [load, h, Except.bind, hdecode]

theorem load_of_text {text : String} (h : read path = .ok text.toUTF8) :
    load read path = ofText path text := by
  have hdecode : decode text.toUTF8 = .ok text := decode_eq_ok_iff.2 rfl
  rw [load, h, Except.bind, hdecode]

/-! ### Hosts

An inline text is given without any file, so what `read'` says plays no part. -/

section

variable {text : String} (h : read path = .ok text.toUTF8) (stat : Stat)
  (read' : String → Except IoError ByteArray)

include h

theorem make_of_parse?_eq_some {s : Settings} (hs : parse? text = some s) :
    (Host.Source.file path).make stat read = Host.ofSettings stat s ∧
      (Host.Source.inline text).make stat read' = Host.ofSettings stat s := by
  simp only [Host.Source.make, Host.Source.given, load_of_text h, ofText_eq_ok_iff.2 hs,
    ofInline_eq_ok_iff.2 hs, and_self]

theorem make_of_parse?_eq_none (hs : parse? text = none) :
    (Host.Source.file path).make stat read = .quiet (.error (.malformed path)) ∧
      (Host.Source.inline text).make stat read' = .quiet (.error (.malformed "<inline>")) := by
  simp only [Host.Source.make, Host.Source.given, load_of_text h, ofText_eq_error_iff.2 ⟨rfl, hs⟩,
    ofInline_eq_error_iff.2 ⟨rfl, hs⟩, and_self]

end

end

/-- Bytes that are no text are unreadable, whatever text stands before the first broken sequence. Of a
text the way in shows only in the name that is blamed if it is malformed. -/
theorem load_exact (read : String → Except IoError ByteArray) (path : String) :
    (∀ e, read path = .error e → load read path = .error (.unreadable path e)) ∧
    (∀ bytes, read path = .ok bytes →
      (Text.WellFormed bytes.data.toList ↔ ∃ text : String, text.toUTF8 = bytes) ∧
      (¬ Text.WellFormed bytes.data.toList →
        load read path = .error (.unreadable path .notUtf8))) ∧
    (∀ (text : String) (rest : ByteArray), read path = .ok (text.toUTF8 ++ rest) →
      ¬ Text.WellFormed rest.data.toList → load read path = .error (.unreadable path .notUtf8)) ∧
    IoError.notUtf8.kind = .invalidData ∧
    ∀ text : String, read path = .ok text.toUTF8 →
      (∀ s, load read path = .ok s ↔ ofInline text = .ok s) ∧
      (∀ e, load read path = .error e ↔
        e = .malformed path ∧ ofInline text = .error (.malformed "<inline>")) ∧
      ∀ (stat : Stat) (read' : String → Except IoError ByteArray),
        let loaded := (Host.Source.file path).make stat read
        let inline := (Host.Source.inline text).make stat read'
        ((∃ s, ofInline text = .ok s) → loaded = inline) ∧
        ((∀ s, ofInline text ≠ .ok s) → loaded = .quiet (.error (.malformed path)) ∧
          inline = .quiet (.error (.malformed "<inline>"))) ∧
        ∀ h h', loaded.value = .ok h → inline.value = .ok h' →
          h = h' ∧ ∀ below later steps,
            (Session.start h below later).run steps = (Session.start h' below later).run steps := by
  refine ⟨fun e => load_of_unread, fun bytes h => ⟨Text.wellFormed_iff_exists_toUTF8,
    load_of_not_wellFormed h⟩, fun text rest h hrest => ?_, rfl, fun text h => ?_⟩
  · exact load_of_not_wellFormed h (mt Text.wellFormed_toUTF8_append_iff.1 hrest)
  have hload := load_of_text h
  refine ⟨fun s => ?_, fun e => ?_, ?_⟩
  · rw [hload, ofText_eq_ok_iff, ofInline_eq_ok_iff]
  · rw [hload, ofText_eq_error_iff, ofInline_eq_error_iff, and_iff_right rfl]
  intro stat read' loaded inline
  cases hs : parse? text with
  | some s =>
    obtain ⟨hfile, hinline⟩ := make_of_parse?_eq_some h stat read' hs
    have heq : loaded = inline := hfile.trans hinline.symm
    refine ⟨fun _ => heq, fun hnone => absurd (ofInline_eq_ok_iff.2 hs) (hnone s), ?_⟩
    intro host host' hl hi
    obtain rfl : host = host' := Except.ok.inj (hl.symm.trans (heq ▸ hi))
    exact ⟨rfl, fun _ _ _ => rfl⟩
  | none =>
    have hmade := make_of_parse?_eq_none h stat read' hs
    refine ⟨?_, fun _ => hmade, fun host host' hl => ?_⟩
    · rintro ⟨s, hok⟩
      cases hs.symm.trans (ofInline_eq_ok_iff.1 hok)
    · cases hl.symm.trans (congrArg Logged.value hmade.1)

/-- A mark at the front is a text; what is longer than it needs to be, half a pair and what is cut
short are none. -/
example :
    decode ⟨#[0xef, 0xbb, 0xbf]⟩ = .ok "\ufeff" ∧ decode ⟨#[0xc0, 0xaf]⟩ = .error .notUtf8 ∧
    decode ⟨#[0xed, 0xa0, 0x80]⟩ = .error .notUtf8 ∧ decode ⟨#[0xe2, 0x82]⟩ = .error .notUtf8 := by
  decide +kernel

end RootedRun.Settings
