import GreetingCheck.Proofs.Json.Compact
import GreetingCheck.Proofs.Json.Decoder
import GreetingCheck.Proofs.Json.Scan

/-!
# Texts that break off

What becomes of compact JSON of which only a beginning is there. A string or a word that breaks off
shows it; a number either shows it or is taken for a shorter one (`Numeral.read_of_breaksOff`). So a
text that breaks off is scanned up to the token in which it does so (`scan_of_breaksOff`), and a
decoder that takes no token but a wanted one, and no number for the end of its record, finds that
the text ends too early (`Decoder.Patient.decode_of_breaksOff`).
-/

namespace GreetingCheck.Json

/-- A text of which the end is missing. -/
def BreaksOff (w text : List Char) : Prop := ∃ missing, missing ≠ [] ∧ text = w ++ missing

namespace BreaksOff

theorem not_nil {w : List Char} : ¬ BreaksOff w [] := by
  intro h
  obtain ⟨missing, hne, htext⟩ := h
  exact hne (List.append_eq_nil_iff.1 htext.symm).2

theorem of_cons {c : Char} {w text : List Char} (h : BreaksOff w (c :: text)) :
    w = [] ∨ ∃ w', w = c :: w' ∧ BreaksOff w' text := by
  obtain ⟨missing, hne, htext⟩ := h
  cases w with
  | nil => exact .inl rfl
  | cons d w =>
    obtain ⟨rfl, htail⟩ := List.cons.inj htext
    exact .inr ⟨w, rfl, missing, hne, htail⟩

/-- A text in two parts breaks off in the first of them or in the second. -/
theorem of_append {w u v : List Char} (h : BreaksOff w (u ++ v)) :
    BreaksOff w u ∨ ∃ w', w = u ++ w' ∧ BreaksOff w' v := by
  obtain ⟨missing, hne, htext⟩ := h
  rcases List.append_eq_append_iff.1 htext with ⟨w', hw, hv⟩ | ⟨cut, hu, hmissing⟩
  · exact .inr ⟨w', hw, missing, hne, hv⟩
  · by_cases hcut : cut = []
    · subst hcut
      exact .inr ⟨[], by simpa using hu.symm, missing, hne, by simpa using hmissing.symm⟩
    · exact .inl ⟨cut, hcut, hu⟩

end BreaksOff

/-! ## Strings -/

namespace Quotation

/-- A hexadecimal digit is a single byte. -/
private theorem length_encode_of_spellsDigit {w : List Char} (h : ∀ c ∈ w, ∃ k, SpellsDigit k c) :
    (Text.Utf8.encode w).length = w.length := by
  have hdigit : ∀ c ∈ w, (String.utf8EncodeChar c).length = 1 := by
    intro c hc
    obtain ⟨k, hk, rfl | rfl⟩ := h c hc
    · interval_cases k <;> rfl
    · interval_cases k <;> rfl
  rw [Text.Utf8.encode, List.length_flatMap, List.map_congr_left hdigit, List.map_const',
    List.sum_replicate_nat, Nat.mul_one]

theorem readUnit_of_breaksOff {n : Nat} {digits w : List Char} (h : SpellsUnit n digits)
    (hw : BreaksOff w digits) : readUnit w = .error .ended := by
  obtain ⟨missing, hne, rfl⟩ := hw
  have hdigits : ∀ c ∈ w ++ missing, ∃ k, SpellsDigit k c := by
    generalize w ++ missing = digits at h
    obtain ⟨ha, hb, hc, hd⟩ := h
    simp only [List.forall_mem_cons]
    exact ⟨⟨_, ha⟩, ⟨_, hb⟩, ⟨_, hc⟩, ⟨_, hd⟩, by simp⟩
  have hlength : (Text.Utf8.encode w).length = w.length :=
    length_encode_of_spellsDigit fun c hc => hdigits c (List.mem_append_left _ hc)
  have hlt : w.length < 4 := by
    have hfour : (w ++ missing).length = 4 := by
      generalize w ++ missing = digits at h
      cases h
      rfl
    have hpos := List.length_pos_iff.2 hne
    rw [List.length_append] at hfour
    omega
  unfold readUnit
  split
  · simp only [List.length_cons] at hlt
    omega
  · rw [hlength, if_pos hlt]

private theorem readLowSurrogate_of_breaksOff {n : Nat} {low w : List Char} (h : SpellsUnit n low)
    (hw : BreaksOff w ('\\' :: 'u' :: low)) : readLowSurrogate w = .error .ended := by
  rcases hw.of_cons with rfl | ⟨w₁, rfl, hw₁⟩
  · rfl
  rcases hw₁.of_cons with rfl | ⟨w₂, rfl, hw₂⟩
  · rfl
  rw [readLowSurrogate, readUnit_of_breaksOff h hw₂]
  rfl

/-- An escape that breaks off behind its backslash. -/
theorem readEscape_of_breaksOff {c : Char} {u w : List Char} (h : SpellsChar c ('\\' :: u))
    (hw : BreaksOff w u) : readEscape w = .error .ended := by
  have hunit {n : Nat} {digits w : List Char} (h : SpellsUnit n digits) (hw : BreaksOff w digits) :
      readEscape ('u' :: w) = .error .ended := by
    rw [readEscape, if_pos rfl, readUnit_of_breaksOff h hw]
    rfl
  generalize hu : '\\' :: u = spelling at h
  cases h with
  | raw _ _ hbackslash => exact absurd (List.cons.inj hu).1.symm hbackslash
  | letter =>
    obtain rfl := (List.cons.inj hu).2
    rcases hw.of_cons with rfl | ⟨w₁, -, hw₁⟩
    · rfl
    · exact absurd hw₁ BreaksOff.not_nil
  | unit h =>
    obtain rfl := (List.cons.inj hu).2
    rcases hw.of_cons with rfl | ⟨w₁, rfl, hw₁⟩
    · rfl
    · exact hunit h hw₁
  | @pair c high low hc hhigh hlow =>
    obtain rfl := (List.cons.inj hu).2
    rcases hw.of_cons with rfl | ⟨w₁, rfl, hw₁⟩
    · rfl
    rcases hw₁.of_append with hw₁ | ⟨w₂, rfl, hw₂⟩
    · exact hunit hhigh hw₁
    · -- the first unit is whole, so it is the second that is missing or breaks off
      have hread : readUnit (high ++ w₂) = .ok (_, w₂) := readUnit_eq_ok_iff.2 ⟨high, hhigh, rfl⟩
      have hisHigh := isHighSurrogate_toNat hc
      have hnotLow := not_isLowSurrogate hisHigh
      simp [readEscape, hread, hnotLow, hisHigh, readLowSurrogate_of_breaksOff hlow hw₂, bind,
        Except.bind]

/-- A string that breaks off in front of its closing quotation mark or earlier. -/
theorem read_of_breaksOff {content body w : List Char} (h : SpellsText content body)
    (hw : BreaksOff w (body ++ ['"'])) : read w = .error .ended := by
  have hnil : read [] = .error .ended := by rw [read]
  induction h generalizing w with
  | nil =>
    rcases hw.of_cons with rfl | ⟨w₁, -, hw₁⟩
    · exact hnil
    · exact absurd hw₁ BreaksOff.not_nil
  | @cons c u content body hc h ih =>
    rw [List.append_assoc] at hw
    rcases hw.of_append with hchar | ⟨w₁, rfl, hw₁⟩
    · -- a character that is spelled as itself does not break off
      rcases spellsChar_cases hc with ⟨rfl, -⟩ | ⟨u, rfl⟩
      · rcases hchar.of_cons with rfl | ⟨w₁, -, hw₁⟩
        · exact hnil
        · exact absurd hw₁ BreaksOff.not_nil
      · rcases hchar.of_cons with rfl | ⟨w₁, rfl, hw₁⟩
        · exact hnil
        · have hescape := readEscape_of_breaksOff hc hw₁
          rw [read, if_neg (by decide), if_pos rfl]
          split <;> simp_all
    · rw [read_append_of_spellsChar hc, ih hw₁]
      rfl

end Quotation

/-! ## Numbers -/

namespace Numeral

theorem value_le_append (digits more : List Char) :
    Text.Decimal.value digits ≤ Text.Decimal.value (digits ++ more) := by
  have hmore := @Nat.ofDigitChars_eq_ofDigitChars_zero more (Text.Decimal.value digits)
  have hle := Nat.le_mul_of_pos_left (Text.Decimal.value digits)
    (Nat.pow_pos (by decide) : 0 < 10 ^ more.length)
  have happend : Text.Decimal.value (digits ++ more) =
      Nat.ofDigitChars 10 more (Text.Decimal.value digits) := Nat.ofDigitChars_append 0
  omega

/-- The digits of an integer that breaks off are those of a smaller one. -/
theorem Small.of_breaksOff {negative : Bool} {whole w : List Char}
    (h : Small ⟨negative, whole, none, none⟩) (hw : BreaksOff w whole) (hne : w ≠ []) :
    Small ⟨negative, w, none, none⟩ := by
  obtain ⟨missing, hmissing, rfl⟩ := hw
  obtain ⟨⟨⟨-, hdigits⟩, hzero, -, -⟩, -, -, hlt⟩ := h
  have hhead : w.head? = (w ++ missing).head? := by
    cases w with
    | nil => exact absurd rfl hne
    | cons => rfl
  have hlength : (w ++ missing).length ≠ 1 := by
    have hw := List.length_pos_iff.2 hne
    have hmissing := List.length_pos_iff.2 hmissing
    rw [List.length_append]
    omega
  refine ⟨⟨⟨hne, fun c hc => hdigits c (List.mem_append_left _ hc)⟩, fun h => ?_, ?_, ?_⟩,
    rfl, rfl, Nat.lt_of_le_of_lt (value_le_append w missing) hlt⟩
  · exact absurd (hzero (hhead ▸ h)) hlength
  · simp
  · simp

/-- An integer that breaks off has lost all of its digits, or is taken for a shorter one. -/
theorem read_of_breaksOff {n : Numeral} {w : List Char} (hn : n.Small) (hw : BreaksOff w n.write)
    (hne : w ≠ []) : read w = .error .ended ∨ ∃ m : Numeral, m.Small ∧ w = m.write := by
  obtain ⟨negative, whole, fraction, scale⟩ := n
  obtain rfl : fraction = none := hn.fraction
  obtain rfl : scale = none := hn.scale
  have hwrite (negative : Bool) (whole : List Char) :
      (⟨negative, whole, none, none⟩ : Numeral).write =
        (if negative then ['-'] else []) ++ whole := by
    simp [write, writeFraction, writeScale]
  rw [hwrite] at hw
  cases negative with
  | false =>
    exact .inr ⟨_, hn.of_breaksOff hw hne, (hwrite false w).symm⟩
  | true =>
    rcases hw.of_cons with rfl | ⟨digits, rfl, hdigits⟩
    · exact absurd rfl hne
    · by_cases hnil : digits = []
      · subst hnil
        exact .inl rfl
      · exact .inr ⟨_, hn.of_breaksOff hdigits hnil, (hwrite true digits).symm⟩

theorem Delimited.of_append {w rest : List Char} (h : Delimited (w ++ rest)) : Delimited w := by
  cases w with
  | nil => exact fun c hc => by simp at hc
  | cons c w => exact h

end Numeral

/-! ## Tokens -/

/-- A token may stand where something is wanted. A token of one character cannot be cut, so nothing
is asked of it. -/
def Token.Suits : Token → Wanted → Prop
  | .text _, wanted => wanted ≠ .mark
  | .null, wanted | .boolean _, wanted | .number _, wanted => wanted = .value
  | _, _ => True

/-- What is scanned in the place of a token of which the end is missing. -/
inductive Remnant (t : Token) : List Token → Ending → Prop
  | missing : Remnant t [] .complete
  /-- A flaw that is put down to the end of the text wherever the token may stand. -/
  | flawed {flaw : Flaw} (h : ∀ wanted, t.Suits wanted → flaw.blame wanted = .ended) :
    Remnant t [] (.flawed flaw)
  | shorter {n m : Numeral} (ht : t = .number n) : Remnant t [.number m] .complete

theorem readWord_of_breaksOff {word w : List Char} (h : BreaksOff w word) :
    readWord word w = .error .ended := by
  induction word generalizing w with
  | nil => exact absurd h BreaksOff.not_nil
  | cons c word ih =>
    rcases h.of_cons with rfl | ⟨w, rfl, hw⟩
    · rfl
    · rw [readWord, if_pos rfl, ih hw]

/-- A word that breaks off is scanned as a flaw. -/
private theorem remnant_word {c : Char} (letters : String) {w : List Char} {t : Token}
    (hblank : isBlank c = false)
    (hread : ∀ rest, Token.read c rest = Token.read.word rest letters t)
    (ht : ∀ wanted, t.Suits wanted → wanted = .value)
    (hw : BreaksOff w (c :: letters.toList)) : Remnant t (scan w).1 (scan w).2 := by
  rcases hw.of_cons with rfl | ⟨w, rfl, hword⟩
  · rw [scan]
    exact .missing
  · have hflaw : Token.read c w = .error ⟨false, .ended⟩ := by
      rw [hread, Token.read.word, readWord_of_breaksOff hword]
    rw [scan_cons_of_error hblank hflaw]
    refine .flawed fun wanted hwanted => ?_
    rw [ht wanted hwanted]
    rfl

private theorem remnant_text {s : String} {w : List Char}
    (hw : BreaksOff w (Quotation.write s.toList)) : Remnant (.text s) (scan w).1 (scan w).2 := by
  rcases hw.of_cons with rfl | ⟨w, rfl, hbody⟩
  · rw [scan]
    exact .missing
  · have hread := Quotation.read_of_breaksOff (Quotation.spellsText_write s.toList) hbody
    have hflaw : Token.read '"' w = .error ⟨true, .ended⟩ := by
      simp [Token.read, Token.read.content, hread]
    rw [scan_cons_of_error rfl hflaw]
    refine .flawed fun wanted hwanted => ?_
    cases wanted with
    | value | text => rfl
    | mark => exact absurd rfl hwanted

private theorem remnant_number {n : Numeral} (hn : n.Small) {w : List Char}
    (hw : BreaksOff w n.write) : Remnant (.number n) (scan w).1 (scan w).2 := by
  by_cases hne : w = []
  · rw [hne, scan]
    exact .missing
  rcases Numeral.read_of_breaksOff hn hw hne with hread | ⟨m, hm, rfl⟩
  · -- the sign alone: it starts a number, and no other token
    obtain ⟨c, rest, hwrite, hc⟩ := Numeral.exists_cons_write hn.wellFormed
    rw [hwrite] at hw
    obtain ⟨w, rfl, -⟩ := hw.of_cons.resolve_left hne
    obtain ⟨hblank, htoken⟩ := readToken_of_digit hc w
    rw [Token.read.numeral, hread] at htoken
    rw [scan_cons_of_error hblank htoken]
    refine .flawed fun wanted hwanted => ?_
    rw [show wanted = .value from hwanted]
    rfl
  · have hnil : Numeral.Delimited [] := fun c hc => by simp at hc
    have hspelled : SpellsToken (.number m) m.write := ⟨hm.wellFormed, rfl⟩
    have hrange : ∀ k, Token.number m = .number k → k.overflows = false := by
      rintro _ ⟨⟩
      exact hm.overflows
    have hscan := scan_append_of_spellsToken hspelled hrange fun _ => hnil
    rw [List.append_nil, scan] at hscan
    rw [hscan]
    exact .shorter rfl

theorem remnant_of_breaksOff {t : Token} {w : List Char}
    (hsmall : ∀ n, t = .number n → n.Small) (hw : BreaksOff w t.write) :
    Remnant t (scan w).1 (scan w).2 := by
  cases t with
  | null => exact remnant_word "ull" rfl (fun _ => rfl) (fun _ h => h) hw
  | boolean b =>
    cases b with
    | true => exact remnant_word "rue" rfl (fun _ => rfl) (fun _ h => h) hw
    | false => exact remnant_word "alse" rfl (fun _ => rfl) (fun _ h => h) hw
  | number n => exact remnant_number (hsmall n rfl) hw
  | text s => exact remnant_text hw
  | _ =>
    rcases hw.of_cons with rfl | ⟨w, -, hnil⟩
    · rw [scan]
      exact .missing
    · exact absurd hnil BreaksOff.not_nil

/-! ## Whole texts -/

/-- A text that breaks off is scanned up to the token in which it does so. -/
theorem scan_of_breaksOff {tokens : List Token} {w : List Char}
    (hsmall : ∀ n, Token.number n ∈ tokens → n.Small) (hsep : Separated tokens)
    (hw : BreaksOff w (tokens.flatMap Token.write)) :
    ∃ taken t rest remnant ending, tokens = taken ++ t :: rest ∧ Remnant t remnant ending ∧
      scan w = (taken ++ remnant, ending) := by
  induction tokens generalizing w with
  | nil => exact absurd hw BreaksOff.not_nil
  | cons t rest ih =>
    have hspelled : ∀ u ∈ t :: rest, SpellsToken u u.write := by
      intro u hu
      exact spellsToken_write fun n hn => (hsmall n (hn ▸ hu)).wellFormed
    rw [List.flatMap_cons] at hw
    rcases hw.of_append with hfirst | ⟨w, rfl, hrest⟩
    · have hremnant := remnant_of_breaksOff
        (fun n hn => hsmall n (hn ▸ List.mem_cons_self)) hfirst
      exact ⟨[], t, rest, _, _, rfl, hremnant, rfl⟩
    · -- the first token is whole, and what is left of the others cannot belong to it either
      have hdelimited : t.isNumber = true → Numeral.Delimited w := by
        intro hnumber
        obtain ⟨missing, -, htext⟩ := hrest
        have hspells := Spells.flatMap_write fun u hu => hspelled u (List.mem_cons_of_mem t hu)
        rw [htext] at hspells
        exact (delimited_of_spells hspells (hsep.1 hnumber)).of_append
      obtain ⟨taken, u, after, remnant, ending, rfl, hremnant, hscan⟩ :=
        ih (fun n hn => hsmall n (List.mem_cons_of_mem t hn)) hsep.2 hrest
      refine ⟨t :: taken, u, after, remnant, ending, rfl, hremnant, ?_⟩
      have hrange : ∀ n, t = .number n → n.overflows = false :=
        fun n hn => (hsmall n (hn ▸ List.mem_cons_self)).overflows
      rw [scan_append_of_spellsToken (hspelled t List.mem_cons_self) hrange hdelimited, hscan]
      rfl

/-! ## Decoders -/

namespace Decoder

variable {α : Type} {d : Decoder α}

/-- A decoder that does not judge a token before it is there: it takes no token but where one of
its kind is wanted, and no number for the end of its record or in preference to another. -/
structure Patient (d : Decoder α) : Prop where
  halts : d.Halts
  suits : ∀ s t s', d.step s t = .ok s' → t.Suits (d.wants s)
  number : ∀ s n s', d.step s (.number n) = .ok s' →
    ∀ m, ∃ s'', d.step s (.number m) = .ok s'' ∧ d.result? s'' = none

/-- A state that takes a token holds no complete record. -/
theorem Halts.result?_eq_none (hd : d.Halts) {s s' : d.State} {t : Token}
    (h : d.step s t = .ok s') : d.result? s = none := by
  rw [Option.eq_none_iff_forall_ne_some]
  intro a ha
  rw [hd s a ha t] at h
  cases h

theorem run_append_of_foldlM (hd : d.Halts) {s s' : d.State} {taken : List Token}
    (h : taken.foldlM d.step s = .ok s') (rest : List Token) (ending : Ending) :
    d.run ending s (taken ++ rest) = d.run ending s' rest := by
  induction taken generalizing s with
  | nil =>
    cases h
    rfl
  | cons t taken ih =>
    rw [List.foldlM_cons] at h
    obtain ⟨mid, hstep, htaken⟩ := bind_eq_ok.1 h
    rw [List.cons_append, run, hd.result?_eq_none hstep, hstep]
    exact ih htaken

/-- Where a token could have been taken, what is left of it is not wrong but incomplete. -/
theorem Patient.run_remnant (hd : d.Patient) {s s' : d.State} {t : Token}
    {remnant : List Token} {ending : Ending} (hstep : d.step s t = .ok s')
    (h : Remnant t remnant ending) : d.run ending s remnant = .error (.fault .ended) := by
  have hnone := hd.halts.result?_eq_none hstep
  have hended {s : d.State} (h : d.result? s = none) :
      d.run .complete s [] = .error (.fault .ended) := by
    unfold run
    simp only [h]
  cases h with
  | missing => exact hended hnone
  | flawed hflaw =>
    unfold run
    simp only [hnone, hflaw _ (hd.suits s t s' hstep)]
  | @shorter n m ht =>
    subst ht
    obtain ⟨s'', hstep', hnone'⟩ := hd.number s n s' hstep m
    rw [run, hnone, hstep']
    exact hended hnone'

/-- A record that breaks off is found to end too early. -/
theorem Patient.decode_of_breaksOff (hd : d.Patient) {v : Json} (hv : v.Small) {a : α}
    (h : d.decode v.compact = .ok a) {front : String}
    (hfront : BreaksOff front.toList v.compact.toList) :
    d.decode front = .error (.fault .ended) := by
  obtain ⟨tokens, s, hscan, hrun, -⟩ := (decode_eq_ok_iff hd.halts).1 h
  rw [scan_of_spelledBy (spelledBy_compact hv.writable) hv.inRange] at hscan
  obtain ⟨rfl, -⟩ := Prod.mk.inj hscan
  rw [compact, String.toList_ofList] at hfront
  obtain ⟨taken, t, rest, remnant, ending, htokens, hremnant, hscan⟩ :=
    scan_of_breaksOff hv (separated_tokens v) hfront
  rw [htokens, List.foldlM_append] at hrun
  obtain ⟨mid, htaken, hrest⟩ := bind_eq_ok.1 hrun
  rw [List.foldlM_cons] at hrest
  obtain ⟨next, hstep, -⟩ := bind_eq_ok.1 hrest
  rw [decode, hscan]
  show d.run ending d.start (taken ++ remnant) = _
  rw [run_append_of_foldlM hd.halts htaken, hd.run_remnant hstep hremnant]

end Decoder

end GreetingCheck.Json
