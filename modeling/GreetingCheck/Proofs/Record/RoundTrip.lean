import GreetingCheck.Proofs.Json.Compact
import GreetingCheck.Proofs.Record.Diagnostic
import GreetingCheck.Record.Arguments

/-!
# Records survive being written and read

Each of the three records is read back from every spelling of the JSON value that it is written as,
and its compact JSON is such a spelling, with any blanks around it.
-/

namespace GreetingCheck

open Json

/-! ## Outcomes -/

namespace Outcome

theorem small_toJson (o : Outcome) : o.toJson.Small := by
  intro n hn
  simp [toJson, tokens] at hn

theorem writable_toJson (o : Outcome) : o.toJson.Writable := o.small_toJson.writable

theorem decoder_halts : decoder.Halts := by
  intro s o hs t
  cases s with
  | done => cases t <;> rfl
  | _ => cases hs

theorem decode_of_spelledBy {o : Outcome} {text : String} (h : o.toJson.SpelledBy text) :
    decode text = .ok o := by
  have hscan := scan_of_spelledBy h o.small_toJson.inRange
  refine (Decoder.decode_eq_ok_iff decoder_halts).2 ⟨_, .done o, hscan, ?_, rfl⟩
  have hlabel : Reading.step .start (.text o.label) = .ok (.done o) := by
    rw [Reading.step, Reading.named, named_eq_ok_iff.2 rfl]
  exact foldlM_cons_of_step hlabel []

end Outcome

/-! ## Arguments -/

namespace Arguments

theorem small_toJson (args : Arguments) : args.toJson.Small := by
  have hitems (items : List String) (n : Numeral) :
      Token.number n ∉ itemTokens (items.map .text) := by
    induction items with
    | nil => simp [itemTokens]
    | cons s rest ih => cases rest <;> simp_all [itemTokens, tokens]
  intro n hn
  exact absurd hn (by simp [toJson, tokens, hitems])

theorem writable_toJson (args : Arguments) : args.toJson.Writable := args.small_toJson.writable

theorem decoder_halts : decoder.Halts := by
  intro s args hs t
  cases s with
  | done => cases t <;> rfl
  | _ => cases hs

namespace Reading

/-- The remaining items of the array, up to its end. -/
private theorem foldlM_items (s : String) (rest before : List String) :
    (itemTokens ((s :: rest).map .text) ++ [Token.closeArray]).foldlM step (.next before) =
      .ok (.done ⟨before ++ s :: rest⟩) := by
  have hitem : step (.next before) (.text s) = .ok (.closed (before ++ [s])) := rfl
  induction rest generalizing s before with
  | nil => exact (foldlM_cons_of_step hitem _).trans rfl
  | cons u rest ih =>
    have hcomma : step (.closed (before ++ [s])) .comma = .ok (.next (before ++ [s])) := rfl
    have htokens : itemTokens ((s :: u :: rest).map .text) =
        .text s :: .comma :: itemTokens ((u :: rest).map .text) := by
      simp [itemTokens, tokens]
    rw [htokens, List.cons_append, List.cons_append, foldlM_cons_of_step hitem,
      foldlM_cons_of_step hcomma, List.append_cons before s (u :: rest)]
    exact ih u (before ++ [s]) rfl

theorem foldlM_toJson (args : Arguments) : args.toJson.tokens.foldlM step .start = .ok (.done args) := by
  obtain ⟨items⟩ := args
  have hopen : step .start .openArray = .ok .opened := rfl
  rw [toJson, tokens, List.cons_append, foldlM_cons_of_step hopen]
  cases items with
  | nil => rfl
  | cons s rest =>
    -- the first item is read alike in the freshly opened array and behind a comma
    obtain ⟨ts, hts⟩ : ∃ ts, itemTokens ((s :: rest).map .text) = .text s :: ts := by
      cases rest <;> exact ⟨_, rfl⟩
    have hitems := foldlM_items s rest []
    rw [hts] at hitems ⊢
    exact hitems

end Reading

theorem decode_of_spelledBy {args : Arguments} {text : String} (h : args.toJson.SpelledBy text) :
    decode text = .ok args :=
  (Decoder.decode_eq_ok_iff decoder_halts).2
    ⟨_, .done args, scan_of_spelledBy h args.small_toJson.inRange, Reading.foldlM_toJson args, rfl⟩

end Arguments

/-! ## Diagnostics -/

namespace Diagnostic

private theorem natAbs_code_lt (code : Int32) : code.toInt.natAbs < 2 ^ 53 := by
  have hlow := Int32.le_toInt code
  have hhigh := Int32.toInt_lt code
  omega

theorem small_toJson (d : Diagnostic) : d.toJson.Small := by
  intro n hn
  have hfield : Token.number n ∈ d.fieldJson.tokens := by
    simpa [toJson, tokens, entryTokens] using hn
  cases d with
  | functionReturn code =>
    obtain rfl : n = .ofInt code.toInt := by simpa [fieldJson, tokens] using hfield
    exact Numeral.small_ofInt (natAbs_code_lt code)
  | _ => simp [fieldJson, Outcome.toJson, tokens] at hfield

theorem writable_toJson (d : Diagnostic) : d.toJson.Writable := d.small_toJson.writable

theorem fieldDenotedBy_fieldJson (d : Diagnostic) : d.FieldDenotedBy d.fieldJson := by
  cases d with
  | scriptArguments => rfl
  | checkArguments => rfl
  | functionReturn code => exact ⟨_, rfl, Numeral.isInteger_ofInt code.toInt⟩
  | status o => exact .label

theorem representedBy_toJson (d : Diagnostic) : d.RepresentedBy d.toJson := by
  have hne := d.kind.fieldName_ne
  exact .object (by simp [hne]) (by simp [hne.symm]) d.fieldDenotedBy_fieldJson

theorem decode_of_spelledBy {d : Diagnostic} {text : String} (h : d.toJson.SpelledBy text) :
    decode text = .ok d := by
  have hdepth : d.toJson.depth ≤ nestingLimit + 1 := by
    cases d <;> simp [toJson, depth, entriesDepth, fieldJson, Outcome.toJson, nestingLimit]
  exact decode_of_representedBy h d.small_toJson.inRange hdepth d.representedBy_toJson

end Diagnostic

/-! ## Decoding undoes encoding -/

/-- Every diagnostic, every outcome and all arguments are decoded from what they are encoded as,
whatever blanks stand in front of it and behind it. -/
theorem records_survive_encoding {before after : List Char} (hbefore : ∀ c ∈ before, isBlank c)
    (hafter : ∀ c ∈ after, isBlank c) :
    (∀ d : Diagnostic, Diagnostic.decode (.ofList before ++ d.encode ++ .ofList after) = .ok d) ∧
      (∀ o : Outcome, Outcome.decode (.ofList before ++ o.encode ++ .ofList after) = .ok o) ∧
      ∀ args : Arguments,
        Arguments.decode (.ofList before ++ args.encode ++ .ofList after) = .ok args :=
  ⟨fun d => Diagnostic.decode_of_spelledBy
      ((spelledBy_compact d.writable_toJson).surround hbefore hafter),
    fun o => Outcome.decode_of_spelledBy
      ((spelledBy_compact o.writable_toJson).surround hbefore hafter),
    fun args => Arguments.decode_of_spelledBy
      ((spelledBy_compact args.writable_toJson).surround hbefore hafter)⟩

/-- A line feed in front and a tab behind are blanks. -/
theorem records_survive_encoding_on_a_line :
    (∀ c ∈ ['\n'], isBlank c) ∧ (∀ c ∈ ['\t', ' '], isBlank c) ∧
      Diagnostic.decode (.ofList ['\n'] ++ (Diagnostic.functionReturn (-1)).encode ++
        .ofList ['\t', ' ']) = .ok (.functionReturn (-1)) :=
  have hbefore : ∀ c ∈ ['\n'], isBlank c := by simp [isBlank]
  have hafter : ∀ c ∈ ['\t', ' '], isBlank c := by simp [isBlank]
  ⟨hbefore, hafter, (records_survive_encoding hbefore hafter).1 _⟩

end GreetingCheck
