import RootedRun.Proofs.Text.Literal
import RootedRun.SearchPath

namespace RootedRun

namespace SetupError

open Text

variable {numbered numbered' : Char → Bool} {entry entry' : String}

theorem toList_badEntryMessage : (badEntryMessage numbered entry).toList =
    "invalid search path entry: ".toList ++ (Literal.encode numbered entry).toList :=
  String.toList_append

theorem badEntryMessage_append_inj {rest rest' : String}
    (h : badEntryMessage numbered entry ++ rest = badEntryMessage numbered' entry' ++ rest') :
    entry = entry' ∧ rest = rest' := by
  unfold badEntryMessage at h
  rw [String.append_assoc, String.append_assoc, String.append_right_inj] at h
  exact Literal.encode_append_inj h

theorem mem_badEntryMessage {c : Char} (h : c ∈ (badEntryMessage numbered entry).toList) :
    IsPlain c ∨ c ∈ entry.toList ∧ Literal.letter? c = none ∧ numbered c = false := by
  rw [toList_badEntryMessage] at h
  rcases List.mem_append.1 h with h | h
  · have hplain : "invalid search path entry: ".toList.all (IsPlain ·) = true := by decide +kernel
    exact .inl (of_decide_eq_true (List.all_eq_true.1 hplain c h))
  · exact Literal.mem_encode h

theorem not_isControl_of_mem {c : Char}
    (hnumbered : ∀ d, IsControl d → Literal.letter? d = none → numbered d = true)
    (h : c ∈ (badEntryMessage numbered entry).toList) :
    ¬ IsControl c ∧ (EndsLine c → numbered c = false) := by
  rcases mem_badEntryMessage h with hplain | ⟨-, hletter, hfalse⟩
  · exact ⟨hplain.not_isControl, fun hends => absurd hends hplain.not_endsLine⟩
  · refine ⟨fun hcontrol => ?_, fun _ => hfalse⟩
    rw [hnumbered c hcontrol hletter] at hfalse
    cases hfalse

end SetupError

namespace SearchPath

open Text SetupError

/-- It does not matter which characters are written by number, as long as the controls without a
letter are. Only the two separators of lines would be let through by a set that lacks them, and the
set in use has them. -/
theorem refusal_unambiguous {dirs : List String} {e : SetupError} (h : ofList dirs = .error e) :
    ∃ entry ∈ dirs, ¬ IsEntry entry ∧ e = .badEntry entry ∧
      e.message = badEntryMessage unprintable entry ∧
      (∀ c ∈ e.message.toList, ¬ IsControl c ∧ ¬ EndsLine c) ∧
      (∀ dirs' e', ofList dirs' = .error e' → e'.message = e.message → e' = e) ∧
      ∀ numbered : Char → Bool,
        (∃ literal, badEntryMessage numbered entry = "invalid search path entry: " ++ literal ∧
          (∃ body, literal.toList = '"' :: (body ++ ['"']) ∧ Literal.Sealed body) ∧
          Literal.decode literal = some entry) ∧
        (∀ numbered' entry' rest rest',
          badEntryMessage numbered' entry' ++ rest' = badEntryMessage numbered entry ++ rest →
            entry' = entry ∧ rest' = rest) ∧
        ((∀ c, IsControl c → Literal.letter? c = none → numbered c = true) →
          ∀ c ∈ (badEntryMessage numbered entry).toList,
            ¬ IsControl c ∧ (EndsLine c → numbered c = false)) := by
  obtain ⟨front, entry, back, rfl, -, hbad, rfl⟩ := ofList_eq_error_iff.1 h
  refine ⟨entry, List.mem_append_right front List.mem_cons_self, hbad, rfl, rfl, fun c hc => ?_,
    fun dirs' e' h' hmessage => ?_,
    fun numbered => ⟨⟨Literal.encode numbered entry, rfl, ?_, Literal.decode_encode ..⟩,
      fun _ _ _ _ => badEntryMessage_append_inj, fun hnumbered _ => not_isControl_of_mem hnumbered⟩⟩
  · have hline := not_isControl_of_mem (fun d hd _ => unprintable_of_isControl hd) hc
    refine hline.imp_right fun hends hc => ?_
    rw [unprintable_of_endsLine hc] at hends
    cases hends hc
  · obtain ⟨-, entry', -, -, -, -, rfl⟩ := ofList_eq_error_iff.1 h'
    rw [(badEntryMessage_append_inj (congrArg (· ++ "") hmessage)).1]
  · exact ⟨Literal.encodeBody numbered entry.toList, String.toList_ofList, Literal.sealed_encodeBody _⟩

/-- An entry with quotes, backslashes, what looks like letters and numbers, and a break of its own. -/
theorem refusal_unambiguous_lookalikes :
    let entry := "a\"\\\x000\t\r\n\\u\x7b41\x7d\x7f\u2028"
    let message := (SetupError.badEntry entry).message
    ofList ["/bin", entry, "/a:b"] = .error (.badEntry entry) ∧
    message = "invalid search path entry: " ++
      "\"a\\\"\\\\\\00\\t\\r\\n\\\\u\x7b41\x7d\\u\x7b7f\x7d\\u\x7b2028\x7d\"" ∧
    (∀ c ∈ message.toList, ¬ IsControl c ∧ ¬ EndsLine c) ∧
    (∀ dirs e, ofList dirs = .error e → e.message = message → e = .badEntry entry) ∧
    ∃ literal, message = "invalid search path entry: " ++ literal ∧
      Literal.decode literal = some entry := by
  intro entry message
  have hrefused : ofList ["/bin", entry, "/a:b"] = .error (.badEntry entry) :=
    ofList_eq_error_iff.2 ⟨["/bin"], entry, ["/a:b"], rfl, by decide, by decide, rfl⟩
  have hmessage : message = "invalid search path entry: " ++
      "\"a\\\"\\\\\\00\\t\\r\\n\\\\u\x7b41\x7d\\u\x7b7f\x7d\\u\x7b2028\x7d\"" := by
    decide +kernel
  obtain ⟨_, -, -, hentry, -, hline, hother, hall⟩ := refusal_unambiguous hrefused
  cases hentry
  obtain ⟨⟨literal, hliteral, -, hdecode⟩, -⟩ := hall unprintable
  exact ⟨hrefused, hmessage, hline, hother, literal, hliteral, hdecode⟩

end SearchPath

end RootedRun
