import GreetingCheck.Proofs.Record.RoundTrip

/-!
# The texts that arguments and outcomes are decoded from

The reader of arguments accepts exactly the spellings of an array of strings, and the reader of
outcomes those of a label or of an object that holds nothing under a label
(`decoded_exactly_from_spellings`). For both, every state is led to by one sequence of tokens only
(`LedBy`, kept by every step), and the tokens that lead to a complete record are those of a value
that it may be written as.
-/

namespace GreetingCheck

open Json

/-! ## Arguments -/

namespace Arguments

/-- The tokens of an array of strings up to where a further string may come. -/
def arrayUpTo (before : List String) : List Token :=
  .openArray :: leadingItems (before.map .text)

theorem arrayUpTo_concat (before : List String) (s : String) :
    arrayUpTo (before ++ [s]) = arrayUpTo before ++ [.text s, .comma] := by
  simp [arrayUpTo, leadingItems, tokens]

/-- A closing bracket in the place of the last comma completes the array. -/
theorem tokens_toJson_concat (before : List String) (s : String) :
    (toJson ⟨before ++ [s]⟩).tokens = arrayUpTo before ++ [.text s, .closeArray] := by
  rw [toJson, List.map_append, List.map_singleton, tokens, itemTokens_concat]
  simp [arrayUpTo, tokens]

namespace Reading

/-- What a state says of the tokens that led to it. -/
def LedBy : Reading → List Token → Prop
  | .start, taken => taken = []
  | .opened, taken => taken = [.openArray]
  | .next before, taken => taken = arrayUpTo before
  | .closed before, taken =>
    ∃ front s, before = front ++ [s] ∧ taken = arrayUpTo front ++ [.text s]
  | .done args, taken => taken = args.toJson.tokens

theorem readItem_eq_ok_iff {before : List String} {t : Token} {r : Reading} :
    readItem before t = .ok r ↔ ∃ s, t = .text s ∧ r = .closed (before ++ [s]) := by
  cases t <;> simp [readItem, eq_comm]

private theorem ledBy_readItem {before : List String} {t : Token} {r : Reading}
    (hstep : readItem before t = .ok r) : LedBy r (arrayUpTo before ++ [t]) := by
  obtain ⟨s, rfl, rfl⟩ := readItem_eq_ok_iff.1 hstep
  exact ⟨before, s, rfl, rfl⟩

theorem ledBy_step (r r' : Reading) (taken : List Token) (t : Token) (h : LedBy r taken)
    (hstep : r.step t = .ok r') : LedBy r' (taken ++ [t]) := by
  cases r with
  | start =>
    cases t with
    | openArray =>
      cases hstep
      rw [h]
      rfl
    | _ => cases hstep
  | opened =>
    rw [h]
    cases t with
    | closeArray =>
      cases hstep
      rfl
    | _ => exact @ledBy_readItem [] _ _ hstep
  | next before =>
    rw [h]
    exact ledBy_readItem hstep
  | closed before =>
    obtain ⟨front, s, rfl, rfl⟩ := h
    cases t with
    | comma =>
      cases hstep
      show arrayUpTo front ++ [.text s] ++ [.comma] = arrayUpTo (front ++ [s])
      rw [arrayUpTo_concat, List.append_assoc]
      rfl
    | closeArray =>
      cases hstep
      show arrayUpTo front ++ [.text s] ++ [.closeArray] = (toJson ⟨front ++ [s]⟩).tokens
      rw [tokens_toJson_concat, List.append_assoc]
      rfl
    | _ => cases hstep
  | done args => cases hstep

end Reading

/-- What arguments are decoded from spells the array of their strings. -/
theorem spelledBy_of_decode {text : String} {args : Arguments} (h : decode text = .ok args) :
    args.toJson.SpelledBy text := by
  have hstart : Reading.LedBy .start [] := rfl
  obtain ⟨tokens, r, hscan, hled, hresult⟩ :=
    Decoder.exists_of_decode decoder_halts hstart Reading.ledBy_step h
  cases r with
  | done =>
    cases hresult
    rw [SpelledBy, ← hled]
    exact spells_of_scan hscan
  | _ => cases hresult

end Arguments

/-! ## Outcomes -/

namespace Outcome

/-- The values that an outcome may be written as: its label, or an object that holds nothing under
the label. -/
inductive RepresentedBy (o : Outcome) : Json → Prop
  | label : RepresentedBy o (.text o.label)
  | object : RepresentedBy o (.object [(o.label, .null)])

namespace Reading

/-- What a state says of the tokens that led to it. -/
def LedBy : Reading → List Token → Prop
  | .start, taken => taken = []
  | .opened, taken => taken = [.openObject]
  | .keyed o, taken => taken = [.openObject, .text o.label]
  | .valued o, taken => taken = [.openObject, .text o.label, .colon]
  | .closed o, taken => taken = [.openObject, .text o.label, .colon, .null]
  | .done o, taken => ∃ v : Json, taken = v.tokens ∧ o.RepresentedBy v

theorem named_eq_ok_iff {name : String} {next : Outcome → Reading} {r : Reading} :
    named name next = .ok r ↔ ∃ o : Outcome, name = o.label ∧ r = next o := by
  unfold named
  constructor
  · intro h
    split at h
    · next o hname =>
      cases h
      exact ⟨o, Outcome.named_eq_ok_iff.1 hname, rfl⟩
    · cases h
  · rintro ⟨o, rfl, rfl⟩
    rw [Outcome.named_eq_ok_iff.2 rfl]

theorem ledBy_step (r r' : Reading) (taken : List Token) (t : Token) (h : LedBy r taken)
    (hstep : r.step t = .ok r') : LedBy r' (taken ++ [t]) := by
  cases r with
  | start =>
    cases t with
    | text name =>
      obtain ⟨o, rfl, rfl⟩ := named_eq_ok_iff.1 hstep
      rw [h]
      exact ⟨_, rfl, .label⟩
    | openObject =>
      cases hstep
      rw [h]
      rfl
    | _ => cases hstep
  | opened =>
    cases t with
    | text name =>
      obtain ⟨o, rfl, rfl⟩ := named_eq_ok_iff.1 hstep
      rw [h]
      rfl
    | _ => cases hstep
  | keyed o =>
    cases t with
    | colon =>
      cases hstep
      rw [h]
      rfl
    | _ => cases hstep
  | valued o =>
    cases t with
    | null =>
      cases hstep
      rw [h]
      rfl
    | _ => cases hstep
  | closed o =>
    cases t with
    | closeObject =>
      cases hstep
      rw [h]
      exact ⟨_, rfl, .object⟩
    | _ => cases hstep
  | done o => cases t <;> cases hstep

end Reading

theorem decode_of_representedBy {text : String} {o : Outcome} {v : Json}
    (hspelled : v.SpelledBy text) (h : o.RepresentedBy v) : decode text = .ok o := by
  cases h with
  | label => exact decode_of_spelledBy hspelled
  | object =>
    have hrange : (Json.object [(o.label, .null)]).InRange := by
      intro n hn
      simp [tokens, entryTokens] at hn
    have hlabel : Reading.step .opened (.text o.label) = .ok (.keyed o) :=
      Reading.named_eq_ok_iff.2 ⟨o, rfl, rfl⟩
    have hopen : Reading.step .start .openObject = .ok .opened := rfl
    refine (Decoder.decode_eq_ok_iff decoder_halts).2
      ⟨_, .done o, scan_of_spelledBy hspelled hrange, ?_, rfl⟩
    exact (foldlM_cons_of_step hopen _).trans (foldlM_cons_of_step hlabel _)

theorem representedBy_of_decode {text : String} {o : Outcome} (h : decode text = .ok o) :
    ∃ v : Json, v.SpelledBy text ∧ o.RepresentedBy v := by
  have hstart : Reading.LedBy .start [] := rfl
  obtain ⟨tokens, r, hscan, hled, hresult⟩ :=
    Decoder.exists_of_decode decoder_halts hstart Reading.ledBy_step h
  cases r with
  | done =>
    cases hresult
    obtain ⟨v, rfl, hv⟩ := hled
    exact ⟨v, spells_of_scan hscan, hv⟩
  | _ => cases hresult

end Outcome

/-! ## Both -/

/-- Arguments are decoded from exactly the texts that spell the array of their strings, and an
outcome from exactly those that spell its label or an object whose only entry is null under that
label. -/
theorem decoded_exactly_from_spellings (text : String) :
    (∀ items : List String,
      Arguments.decode text = .ok ⟨items⟩ ↔ (Json.array (items.map .text)).SpelledBy text) ∧
    ∀ o : Outcome, Outcome.decode text = .ok o ↔
      (Json.text o.label).SpelledBy text ∨ (Json.object [(o.label, .null)]).SpelledBy text := by
  constructor
  · exact fun items => ⟨Arguments.spelledBy_of_decode, Arguments.decode_of_spelledBy⟩
  · intro o
    constructor
    · intro h
      obtain ⟨v, hspelled, hv⟩ := Outcome.representedBy_of_decode h
      cases hv with
      | label => exact .inl hspelled
      | object => exact .inr hspelled
    · rintro (h | h)
      · exact Outcome.decode_of_representedBy h .label
      · exact Outcome.decode_of_representedBy h .object

end GreetingCheck
