import GreetingCheck.Proofs.Json.Truncation
import GreetingCheck.Proofs.Record.RoundTrip

/-!
# Records that break off

The decoders of the three records are patient: what they object to in a token, they object to only
once the token is there. Hence an encoded record of which the end is missing is found to end too
early, wherever it breaks off.
-/

namespace GreetingCheck

open Json

/-! ## Values of any shape -/

/-- Where a value may come, every token that starts one may stand. -/
theorem Json.Token.suits_value (t : Token) : t.Suits .value := by
  cases t <;> simp [Token.Suits]

namespace Json.Reading

variable {limit : Nat} {r r' : Reading}

theorem suits_of_step {t : Token} (h : r.step limit t = .ok r') : t.Suits r.wants := by
  cases Step.of_eq_ok h with
  | value | firstItem => exact t.suits_value
  | _ => simp [Token.Suits, wants]

theorem exists_step_number {n : Numeral} (h : r.step limit (.number n) = .ok r') (m : Numeral) :
    ∃ r'', r.step limit (.number m) = .ok r'' := by
  cases r with
  | value | opened => exact ⟨_, rfl⟩
  | closed v inner => cases inner <;> cases h
  | _ => cases h

end Json.Reading

/-! ## The three decoders -/

theorem Outcome.decoder_patient : decoder.Patient where
  halts := decoder_halts
  suits s t s' h := by
    change Reading.step s t = .ok s' at h
    cases s with
    | valued => exact t.suits_value
    | start | opened =>
      cases t with
      | text => exact fun hmark => by cases hmark
      | openObject => trivial
      | _ => cases h
    | _ => cases t <;> trivial
  number s n s' h := by
    cases s <;> cases h

theorem Arguments.decoder_patient : decoder.Patient where
  halts := decoder_halts
  suits s t s' h := by
    change Reading.step s t = .ok s' at h
    cases s with
    | start | opened | next => exact t.suits_value
    | _ => cases t <;> trivial
  number s n s' h := by
    cases s <;> cases h

namespace Diagnostic

namespace Reading

variable {wrap : Json.Reading → Reading} {next : Json → Reading} {inner : Json.Reading}

/-- What is taken into a reading inside is a token that the reading inside takes. -/
theorem exists_of_takeInner {t : Token} {s : Reading} (h : takeInner wrap next inner t = .ok s) :
    ∃ inner', inner.step nestingLimit t = .ok inner' := by
  unfold takeInner at h
  split at h
  · next hstep => exact ⟨_, hstep⟩
  · next hstep => exact ⟨_, hstep⟩
  · cases h

theorem exists_takeInner_number {n : Numeral} {s : Reading}
    (hwrap : ∀ inner, (wrap inner).result? = none) (hnext : ∀ v, (next v).result? = none)
    (h : takeInner wrap next inner (.number n) = .ok s) (m : Numeral) :
    ∃ s', takeInner wrap next inner (.number m) = .ok s' ∧ s'.result? = none := by
  obtain ⟨_, hstep⟩ := exists_of_takeInner h
  obtain ⟨inner', hstep'⟩ := Json.Reading.exists_step_number hstep m
  unfold takeInner
  rw [hstep']
  cases inner' with
  | done v => exact ⟨_, rfl, hnext v⟩
  | _ => exact ⟨_, rfl, hwrap _⟩

end Reading

theorem decoder_patient : decoder.Patient where
  halts := decoder_halts
  suits s t s' h := by
    change Reading.step s t = .ok s' at h
    cases s with
    | start | kindValue | firstItem => exact t.suits_value
    | firstKey | nextKey =>
      cases t with
      | text => exact fun hmark => by cases hmark
      | closeObject => trivial
      | _ => cases h
    | value | item =>
      -- what may come next is up to the reading inside
      obtain ⟨_, hstep⟩ := Reading.exists_of_takeInner h
      exact Json.Reading.suits_of_step hstep
    | _ => cases t <;> trivial
  number s n s' h m := by
    change Reading.step s (.number n) = .ok s' at h
    cases s with
    | value | item =>
      exact Reading.exists_takeInner_number (fun _ => rfl) (fun _ => rfl) h m
    | _ => cases h

end Diagnostic

/-! ## Encoded records -/

/-- A record that is encoded and then broken off anywhere, even in front of its first character, is
found to end too early: it is not taken for another record, and nothing is found wrong with it. -/
theorem truncated_record_ended {front back : String} (hback : back ≠ "") :
    (∀ d : Diagnostic, d.encode = front ++ back →
      Diagnostic.decode front = .error (.fault .ended)) ∧
    (∀ args : Arguments, args.encode = front ++ back →
      Arguments.decode front = .error (.fault .ended)) ∧
    ∀ o : Outcome, o.encode = front ++ back →
      Outcome.decode front = .error (.fault .ended) := by
  have hcut {text : String} (h : text = front ++ back) : BreaksOff front.toList text.toList := by
    refine ⟨back.toList, fun hnil => hback (String.toList_injective hnil), ?_⟩
    rw [h, String.toList_append]
  refine ⟨fun d h => ?_, fun args h => ?_, fun o h => ?_⟩
  · exact Diagnostic.decoder_patient.decode_of_breaksOff d.small_toJson
      (Diagnostic.decode_of_spelledBy (spelledBy_compact d.writable_toJson)) (hcut h)
  · exact Arguments.decoder_patient.decode_of_breaksOff args.small_toJson
      (Arguments.decode_of_spelledBy (spelledBy_compact args.writable_toJson)) (hcut h)
  · exact Outcome.decoder_patient.decode_of_breaksOff o.small_toJson
      (Outcome.decode_of_spelledBy (spelledBy_compact o.writable_toJson)) (hcut h)

/-- What is left of a number may be a number, too, and a string may hold what looks like the end of
the array that it stands in. -/
theorem truncated_record_ended_in_number :
    Diagnostic.decode "\x7b\"event\":\"function_return\",\"code\":-21" = .error (.fault .ended) ∧
      Arguments.decode "[\"\\\"]" = .error (.fault .ended) := by
  have hdigits : "47483648\x7d" ≠ "" := by decide
  have hquote : "\"]" ≠ "" := by decide
  have hcode : (Diagnostic.functionReturn Int32.minValue).encode =
      "\x7b\"event\":\"function_return\",\"code\":-21" ++ "47483648\x7d" := by decide +kernel
  have hitem : (Arguments.mk ["\"]"]).encode = "[\"\\\"]" ++ "\"]" := by decide +kernel
  exact ⟨(truncated_record_ended hdigits).1 _ hcode, (truncated_record_ended hquote).2.1 _ hitem⟩

end GreetingCheck
