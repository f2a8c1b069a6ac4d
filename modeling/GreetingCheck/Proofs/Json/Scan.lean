import GreetingCheck.Proofs.Json.Numeral
import GreetingCheck.Proofs.Json.Quotation
import GreetingCheck.Proofs.Json.Range

/-!
# Texts are scanned as they are spelled

`scan` cuts a text into the tokens that it spells: a text that is scanned to its end spells its
tokens (`spells_of_scan`), and the tokens of a text are found again where no number is out of range
and none stands next to another (`scan_of_spells`), which holds for the tokens of a value
(`separated_tokens`). Two numbers with nothing between them would be read as one; a number out of
range ends the scanning (`scan_append_of_overflows`).
-/

namespace GreetingCheck.Json

/-! ## Single tokens -/

/-- Whether a token is a number. -/
def Token.isNumber : Token → Bool
  | .number _ => true
  | _ => false

theorem readWord_eq_ok_iff {word text rest : List Char} :
    readWord word text = .ok rest ↔ text = word ++ rest := by
  constructor
  · intro h
    fun_induction readWord word text with
    | case1 rest' => simpa using h
    | case2 => simp at h
    | case3 c word rest' ih => rw [ih h, List.cons_append]
    | case4 => simp at h
  · intro h
    subst h
    induction word with
    | nil => rfl
    | cons c word ih => rw [List.cons_append, readWord, if_pos rfl, ih]

theorem spellsToken_iff_of_isFixed {t : Token} (ht : t.isFixed = true) {w : List Char} :
    SpellsToken t w ↔ w = t.write := by
  cases t with
  | number | text => cases ht
  | _ => exact Iff.rfl

/-- A token that is read from a text is spelled by what was taken off the text. -/
theorem spells_of_readToken {c : Char} {text rest : List Char} {t : Token}
    (h : Token.read c text = .ok (t, rest)) :
    ∃ w, SpellsToken t w ∧ c :: text = w ++ rest := by
  cases Token.reads_of_read h with
  | @fixed _ letters _ ht hwrite hword =>
    refine ⟨t.write, (spellsToken_iff_of_isFixed ht).2 rfl, ?_⟩
    rw [hwrite, readWord_eq_ok_iff.1 hword, List.cons_append]
  | @content content _ hc hread =>
    obtain ⟨body, hbody, rfl⟩ := Quotation.read_eq_ok_iff.1 hread
    refine ⟨'"' :: body ++ ['"'], ⟨body, ?_, rfl⟩, by simp [hc]⟩
    rw [String.toList_ofList]
    exact hbody
  | @numeral n _ hread =>
    obtain ⟨hn, _, htext⟩ := Numeral.spells_of_read hread
    exact ⟨n.write, ⟨hn, rfl⟩, htext⟩

/-- A number that is read is in range. -/
theorem overflows_of_readToken {c : Char} {text rest : List Char} {n : Numeral}
    (h : Token.read c text = .ok (.number n, rest)) : n.overflows = false := by
  cases Token.reads_of_read h with
  | fixed ht => cases ht
  | numeral hread => exact (Numeral.spells_of_read hread).2.1

/-- A token that is no number starts with a character that could not belong to one. -/
private theorem exists_cons_of_not_isNumber {t : Token} {w : List Char} (h : SpellsToken t w)
    (ht : t.isNumber = false) :
    ∃ c w', w = c :: w' ∧ isBlank c = false ∧ c.isDigit = false ∧ c ≠ '.' ∧ c ≠ 'e' ∧ c ≠ 'E' := by
  cases t with
  | number n => cases ht
  | text s =>
    obtain ⟨body, _, rfl⟩ := h
    exact ⟨'"', body ++ ['"'], rfl, by decide⟩
  | boolean b => cases b <;> exact ⟨_, _, h, by decide⟩
  | _ => exact ⟨_, _, h, by decide⟩

/-- A digit or a sign starts none of the other tokens, and is no blank. -/
theorem readToken_of_digit {c : Char} (hc : c = '-' ∨ c.isDigit = true) (text : List Char) :
    isBlank c = false ∧ Token.read c text = Token.read.numeral text c := by
  have hne {d : Char} (hd : d ≠ '-' ∧ d.isDigit = false) : c ≠ d := by
    rintro rfl
    rcases hc with hc | hc
    · exact hd.1 hc
    · rw [hd.2] at hc
      cases hc
  constructor
  · simp only [isBlank, hne (d := ' ') (by decide), hne (d := '\t') (by decide),
      hne (d := '\n') (by decide), hne (d := '\r') (by decide)]
    rfl
  · unfold Token.read
    split <;> first
      | exact absurd rfl (hne (by decide))
      | exact if_pos hc

/-- A token is spelled by at least one character, and the first is no blank. -/
theorem exists_cons_of_spellsToken {t : Token} {w : List Char} (h : SpellsToken t w) :
    ∃ c w', w = c :: w' ∧ isBlank c = false := by
  cases ht : t.isNumber with
  | false =>
    obtain ⟨c, w', hw, hblank, _⟩ := exists_cons_of_not_isNumber h ht
    exact ⟨c, w', hw, hblank⟩
  | true =>
    cases t with
    | number n =>
      obtain ⟨hn, rfl⟩ := h
      obtain ⟨c, w', hw, hc⟩ := Numeral.exists_cons_write hn
      exact ⟨c, w', hw, (readToken_of_digit hc []).1⟩
    | _ => cases ht

private theorem readToken_word (letters : String) (rest : List Char) (t : Token) :
    Token.read.word (letters.toList ++ rest) letters t = .ok (t, rest) := by
  rw [Token.read.word, readWord_eq_ok_iff.2 rfl]

/-- A number is read in full where it does not go on, and then taken or refused. -/
theorem readToken_of_spellsNumber {c : Char} {w rest : List Char} {n : Numeral}
    (h : SpellsToken (.number n) (c :: w)) (hrest : Numeral.Delimited rest) :
    Token.read c (w ++ rest) =
      if n.overflows then .error ⟨false, .malformed⟩ else .ok (.number n, rest) := by
  obtain ⟨hn, hw⟩ := h
  obtain ⟨d, w', hwrite, hd⟩ := Numeral.exists_cons_write hn
  obtain ⟨rfl, rfl⟩ : c = d ∧ w = w' := by simpa [hwrite] using hw
  rw [(readToken_of_digit hd _).2, Token.read.numeral, ← List.cons_append, hw,
    Numeral.read_write hn hrest]
  cases n.overflows <;> rfl

/-- A token is read as it is spelled, unless it is a number that goes on or is out of range. -/
theorem readToken_of_spells {c : Char} {w rest : List Char} {t : Token}
    (h : SpellsToken t (c :: w)) (hrange : ∀ n, t = .number n → n.overflows = false)
    (hrest : t.isNumber = true → Numeral.Delimited rest) :
    Token.read c (w ++ rest) = .ok (t, rest) := by
  cases t with
  | number n =>
    rw [readToken_of_spellsNumber h (hrest rfl), hrange n rfl]
    rfl
  | text s =>
    obtain ⟨body, hbody, hw⟩ := h
    obtain ⟨rfl, rfl⟩ : c = '"' ∧ w = body ++ ['"'] := by simpa using hw
    have hread : Quotation.read (body ++ '"' :: rest) = .ok (s.toList, rest) :=
      Quotation.read_eq_ok_iff.2 ⟨body, hbody, rfl⟩
    simp [Token.read, Token.read.content, hread]
  | null =>
    obtain ⟨rfl, rfl⟩ := List.cons.inj h
    exact readToken_word "ull" rest .null
  | boolean b =>
    cases b with
    | true =>
      obtain ⟨rfl, rfl⟩ := List.cons.inj h
      exact readToken_word "rue" rest (.boolean true)
    | false =>
      obtain ⟨rfl, rfl⟩ := List.cons.inj h
      exact readToken_word "alse" rest (.boolean false)
  | _ =>
    obtain ⟨rfl, rfl⟩ := List.cons.inj h
    rfl

theorem scan_cons_of_ok {c : Char} {text rest : List Char} {t : Token} (hblank : isBlank c = false)
    (h : Token.read c text = .ok (t, rest)) :
    scan (c :: text) = (t :: (scan rest).1, (scan rest).2) := by
  rw [scan, hblank]
  simp only [Bool.false_eq_true, if_false]
  split
  · next hflaw => simp [h] at hflaw
  · next hread =>
    rw [h] at hread
    obtain ⟨rfl, rfl⟩ := Prod.mk.inj (Except.ok.inj hread)
    rfl

/-- Where no token can be read, none is scanned. -/
theorem scan_cons_of_error {c : Char} {text : List Char} {flaw : Flaw} (hblank : isBlank c = false)
    (h : Token.read c text = .error flaw) : scan (c :: text) = ([], .flawed flaw) := by
  rw [scan, hblank]
  simp only [Bool.false_eq_true, if_false]
  split <;> simp_all

/-- A token is scanned as it is spelled, and then what follows it, unless it is a number that goes
on or is out of range. -/
theorem scan_append_of_spellsToken {t : Token} {w rest : List Char} (h : SpellsToken t w)
    (hrange : ∀ n, t = .number n → n.overflows = false)
    (hrest : t.isNumber = true → Numeral.Delimited rest) :
    scan (w ++ rest) = (t :: (scan rest).1, (scan rest).2) := by
  obtain ⟨c, w', rfl, hblank⟩ := exists_cons_of_spellsToken h
  exact scan_cons_of_ok hblank (readToken_of_spells h hrange hrest)

/-- A number out of range is not scanned at all. -/
theorem scan_append_of_overflows {n : Numeral} {w rest : List Char}
    (h : SpellsToken (.number n) w) (hover : n.overflows = true) (hrest : Numeral.Delimited rest) :
    scan (w ++ rest) = ([], .flawed ⟨false, .malformed⟩) := by
  obtain ⟨c, w', rfl, hblank⟩ := exists_cons_of_spellsToken h
  have hread := readToken_of_spellsNumber h hrest
  rw [if_pos hover] at hread
  exact scan_cons_of_error hblank hread

/-! ## Whole texts -/

/-- A text that is scanned to its end spells its tokens. -/
theorem spells_of_scan {text : List Char} {tokens : List Token}
    (h : scan text = (tokens, .complete)) : Spells tokens text := by
  induction text using scan.induct generalizing tokens with
  | case1 =>
    rw [scan] at h
    obtain ⟨rfl, _⟩ := Prod.mk.inj h
    exact .nil
  | case2 c rest hblank ih =>
    rw [scan, if_pos hblank] at h
    exact .blank hblank (ih h)
  | case3 c rest hblank flaw hread =>
    rw [scan_cons_of_error (by simpa using hblank) hread] at h
    cases h
  | case4 c rest hblank t rest' hread ih =>
    rw [scan_cons_of_ok (by simpa using hblank) hread] at h
    obtain ⟨rfl, hcomplete⟩ := Prod.mk.inj h
    obtain ⟨w, hw, htext⟩ := spells_of_readToken hread
    rw [htext]
    exact .token hw (ih (Prod.ext rfl hcomplete))

/-- Only numbers in range are scanned. -/
theorem overflows_of_mem_scan {text : List Char} {n : Numeral}
    (h : Token.number n ∈ (scan text).1) : n.overflows = false := by
  induction text using scan.induct with
  | case1 =>
    rw [scan] at h
    cases h
  | case2 c rest hblank ih =>
    rw [scan, if_pos hblank] at h
    exact ih h
  | case3 c rest hblank flaw hread =>
    rw [scan_cons_of_error (by simpa using hblank) hread] at h
    cases h
  | case4 c rest hblank t rest' hread ih =>
    rw [scan_cons_of_ok (by simpa using hblank) hread] at h
    rcases List.mem_cons.1 h with rfl | hrest
    · exact overflows_of_readToken hread
    · exact ih hrest

/-- Tokens of which no two neighbours are numbers. -/
def Separated : List Token → Prop
  | [] => True
  | t :: rest =>
    (t.isNumber = true → ∀ u, rest.head? = some u → u.isNumber = false) ∧ Separated rest

/-- A text whose first token is no number cannot go on with a number that stands before it. -/
theorem delimited_of_spells {tokens : List Token} {text : List Char}
    (h : Spells tokens text) (hfirst : ∀ u, tokens.head? = some u → u.isNumber = false) :
    Numeral.Delimited text := by
  cases h with
  | nil => exact fun c hc => by simp at hc
  | @blank c _ text hc h =>
    intro d hd
    rw [List.head?_cons, Option.some.injEq] at hd
    subst hd
    simp only [isBlank, Bool.or_eq_true, decide_eq_true_eq] at hc
    rcases hc with ((rfl | rfl) | rfl) | rfl <;> decide
  | @token t _ w _ ht h =>
    obtain ⟨c, w', rfl, _, hc⟩ := exists_cons_of_not_isNumber ht (hfirst t rfl)
    intro d hd
    rw [List.cons_append, List.head?_cons, Option.some.injEq] at hd
    subst hd
    exact hc

/-- The tokens of a text are found again if no two numbers stand next to each other and none is out
of range. -/
theorem scan_of_spells {tokens : List Token} {text : List Char} (h : Spells tokens text)
    (hsep : Separated tokens) (hrange : ∀ n, Token.number n ∈ tokens → n.overflows = false) :
    scan text = (tokens, .complete) := by
  induction h with
  | nil => rw [scan]
  | blank hc h ih =>
    rw [scan, if_pos hc]
    exact ih hsep hrange
  | @token t tokens w text ht h ih =>
    have hfirst : ∀ n, t = .number n → n.overflows = false :=
      fun n hn => hrange n (hn ▸ List.mem_cons_self)
    -- only a number could go on into the text behind it, and there no number follows
    rw [scan_append_of_spellsToken ht hfirst fun hnumber => delimited_of_spells h (hsep.1 hnumber),
      ih hsep.2 fun n hn => hrange n (List.mem_cons_of_mem t hn)]

/-- A text that is scanned to its end spells no other tokens than those that are found. -/
theorem eq_of_scan {tokens found : List Token} {text : List Char} (h : Spells tokens text)
    (hsep : Separated tokens) (hscan : scan text = (found, .complete)) : tokens = found := by
  induction h generalizing found with
  | nil =>
    rw [scan] at hscan
    exact congrArg Prod.fst hscan
  | blank hc h ih =>
    rw [scan, if_pos hc] at hscan
    exact ih hsep hscan
  | @token t tokens w text ht h ih =>
    have hdelimited : t.isNumber = true → Numeral.Delimited text :=
      fun hnumber => delimited_of_spells h (hsep.1 hnumber)
    have hrange : ∀ n, t = .number n → n.overflows = false := by
      rintro n rfl
      by_contra hover
      rw [scan_append_of_overflows ht (by simpa using hover) (hdelimited rfl)] at hscan
      cases hscan
    rw [scan_append_of_spellsToken ht hrange hdelimited] at hscan
    obtain ⟨rfl, hcomplete⟩ := Prod.mk.inj hscan
    rw [ih hsep.2 (Prod.ext rfl hcomplete)]

/-! ## The tokens of a value -/

/-- A token that is no number separates what stands before it from what stands behind it. -/
theorem separated_append {before after : List Token} {t : Token} (ht : t.isNumber = false)
    (hbefore : Separated before) (hafter : Separated after) :
    Separated (before ++ t :: after) := by
  induction before with
  | nil => exact ⟨fun h => by simp [ht] at h, hafter⟩
  | cons u rest ih =>
    refine ⟨?_, ih hbefore.2⟩
    intro hu v hv
    cases rest with
    | nil =>
      obtain rfl : t = v := by simpa using hv
      exact ht
    | cons w rest => exact hbefore.1 hu v hv

theorem separated_cons {t : Token} {rest : List Token} (ht : t.isNumber = false)
    (h : Separated rest) : Separated (t :: rest) :=
  have hnil : Separated [] := trivial
  separated_append ht hnil h

mutual

theorem separated_tokens (v : Json) : Separated v.tokens := by
  cases v with
  | array items =>
    rw [tokens]
    exact separated_append rfl (separated_cons rfl (separated_itemTokens items)) trivial
  | object entries =>
    rw [tokens]
    exact separated_append rfl (separated_cons rfl (separated_entryTokens entries)) trivial
  | _ => exact ⟨fun _ _ h => by simp at h, trivial⟩

theorem separated_itemTokens (items : List Json) : Separated (itemTokens items) := by
  match items with
  | [] => trivial
  | [v] => exact separated_tokens v
  | v :: w :: rest =>
    rw [itemTokens]
    exact separated_append rfl (separated_tokens v) (separated_itemTokens (w :: rest))

theorem separated_entryTokens (entries : List (String × Json)) :
    Separated (entryTokens entries) := by
  match entries with
  | [] => trivial
  | [(key, v)] =>
    rw [entryTokens]
    exact separated_cons rfl (separated_cons rfl (separated_tokens v))
  | (key, v) :: e :: rest =>
    rw [entryTokens]
    exact separated_append rfl (separated_cons rfl (separated_cons rfl (separated_tokens v)))
      (separated_entryTokens (e :: rest))

end

/-- The tokens of a value are found again in every spelling of it, if its numbers are in range. -/
theorem scan_of_spelledBy {v : Json} {text : String} (h : v.SpelledBy text) (hrange : v.InRange) :
    scan text.toList = (v.tokens, .complete) :=
  scan_of_spells h (separated_tokens v) hrange

/-- A text that is scanned to its end spells a value only if those are its tokens. -/
theorem tokens_eq_of_scan {v : Json} {text : String} {found : List Token} (h : v.SpelledBy text)
    (hscan : scan text.toList = (found, .complete)) : v.tokens = found :=
  eq_of_scan h (separated_tokens v) hscan

end GreetingCheck.Json
