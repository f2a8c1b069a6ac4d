import Mathlib.Tactic.IntervalCases
import GreetingCheck.Proofs.Json.Spelling

/-!
# Strings are read as they are spelled

`Quotation.read` accepts exactly the spellings of a text up to the first quotation mark that is not
part of one (`read_eq_ok_iff`), and what `Quotation.write` puts between quotation marks is a
spelling of the text (`spellsText_write`). Each reader of a part of a string has such an
equivalence of its own; a digit, a unit, a letter, a surrogate and an escape come in this order.
-/

namespace GreetingCheck.Json.Quotation

/-! ## Parts of an escape -/

private theorem spellsDigit_of_toNat {c : Char} {k : Nat}
    (h : c.toNat = k + 48 ∧ k < 10 ∨ c.toNat = k + 87 ∧ 10 ≤ k ∧ k < 16 ∨
      c.toNat = k + 55 ∧ 10 ≤ k ∧ k < 16) : SpellsDigit k c := by
  have hk : k < 16 := by omega
  refine ⟨hk, ?_⟩
  rcases h with ⟨hc, hhigh⟩ | ⟨hc, hlow, hhigh⟩ | ⟨hc, hlow, hhigh⟩
  · left
    rw [← Char.toNat_inj, hc]
    interval_cases k <;> rfl
  · left
    rw [← Char.toNat_inj, hc]
    interval_cases k <;> rfl
  · right
    rw [← Char.toNat_inj, hc]
    interval_cases k <;> rfl

theorem hexDigit?_eq_some_iff {c : Char} {k : Nat} : hexDigit? c = some k ↔ SpellsDigit k c := by
  constructor
  · intro h
    unfold hexDigit? at h
    simp only [Char.le_def, UInt32.le_iff_toNat_le, Char.toNat_val,
      show '0'.toNat = 48 from rfl, show '9'.toNat = 57 from rfl, show 'a'.toNat = 97 from rfl,
      show 'f'.toNat = 102 from rfl, show 'A'.toNat = 65 from rfl,
      show 'F'.toNat = 70 from rfl] at h
    -- the three ranges of the reader are the three cases of the lemma
    apply spellsDigit_of_toNat
    split_ifs at h <;> simp only [Option.some.injEq] at h <;> omega
  · intro h
    rcases h with ⟨hk, hc⟩
    interval_cases k <;> rcases hc with rfl | rfl <;> rfl

theorem readUnit_eq_ok_iff {text rest : List Char} {n : Nat} :
    readUnit text = .ok (n, rest) ↔ ∃ w, SpellsUnit n w ∧ text = w ++ rest := by
  constructor
  · intro h
    unfold readUnit at h
    split at h
    · next a b c d _ =>
      split at h
      · next i j k l ha hb hc hd =>
        simp only [Except.ok.injEq, Prod.mk.injEq] at h
        obtain ⟨rfl, rfl⟩ := h
        exact ⟨[a, b, c, d], .digits (hexDigit?_eq_some_iff.1 ha) (hexDigit?_eq_some_iff.1 hb)
          (hexDigit?_eq_some_iff.1 hc) (hexDigit?_eq_some_iff.1 hd), rfl⟩
      · simp at h
    · simp at h
  · intro h
    rcases h with ⟨w, ⟨ha, hb, hc, hd⟩, rfl⟩
    rw [← hexDigit?_eq_some_iff] at ha hb hc hd
    simp only [List.cons_append, List.nil_append, readUnit, ha, hb, hc, hd]

/-- Four hexadecimal digits stay below 65536. -/
theorem spellsUnit_lt {n : Nat} {w : List Char} (h : SpellsUnit n w) : n < 0x10000 := by
  obtain ⟨⟨hi, _⟩, ⟨hj, _⟩, ⟨hk, _⟩, ⟨hl, _⟩⟩ := h
  omega

theorem ofLetter?_eq_some_iff {l c : Char} : ofLetter? l = some c ↔ (l, c) ∈ letterEscapes := by
  unfold letterEscapes
  constructor
  · intro h
    unfold ofLetter? at h
    split at h <;> simp at h <;> simp [← h]
  · intro h
    simp only [List.mem_cons, Prod.mk.injEq, List.not_mem_nil, or_false] at h
    rcases h with ⟨rfl, rfl⟩ | ⟨rfl, rfl⟩ | ⟨rfl, rfl⟩ | ⟨rfl, rfl⟩ | ⟨rfl, rfl⟩ | ⟨rfl, rfl⟩ |
      ⟨rfl, rfl⟩ | ⟨rfl, rfl⟩ <;> rfl

/-! ## Escapes -/

theorem isLowSurrogate_iff {n : Nat} : isLowSurrogate n = true ↔ 0xDC00 ≤ n ∧ n ≤ 0xDFFF := by
  simp [isLowSurrogate]

theorem isHighSurrogate_iff {n : Nat} : isHighSurrogate n = true ↔ 0xD800 ≤ n ∧ n ≤ 0xDBFF := by
  simp [isHighSurrogate]

/-- No number is either half of a pair. -/
theorem not_isLowSurrogate {n : Nat} (h : isHighSurrogate n = true) :
    ¬ isLowSurrogate n = true := by
  rw [isHighSurrogate_iff] at h
  rw [isLowSurrogate_iff]
  omega

theorem readLowSurrogate_eq_ok_iff {text rest : List Char} {n : Nat} :
    readLowSurrogate text = .ok (n, rest) ↔
      ∃ w, SpellsUnit n w ∧ isLowSurrogate n = true ∧ text = '\\' :: 'u' :: (w ++ rest) := by
  constructor
  · intro h
    unfold readLowSurrogate at h
    split at h
    · obtain ⟨⟨m, rest'⟩, hunit, hm⟩ := bind_eq_ok.1 h
      obtain ⟨w, hw, rfl⟩ := readUnit_eq_ok_iff.1 hunit
      dsimp only at hm
      split at hm
      · next hlow =>
        simp only [Except.ok.injEq, Prod.mk.injEq] at hm
        obtain ⟨rfl, rfl⟩ := hm
        exact ⟨w, hw, hlow, rfl⟩
      · simp at hm
    · simp at h
    · simp at h
  · intro h
    rcases h with ⟨w, hw, hlow, rfl⟩
    have hunit : readUnit (w ++ rest) = .ok (n, rest) := readUnit_eq_ok_iff.2 ⟨w, hw, rfl⟩
    rw [readLowSurrogate, hunit]
    exact if_pos hlow

/-- A number that belongs to a character is the number of that character. -/
theorem toNat_ofNat {n : Nat} (h : n < 0xD800 ∨ (0xDFFF < n ∧ n < 0x110000)) :
    (Char.ofNat n).toNat = n := by
  unfold Char.ofNat
  rw [dif_pos h]
  rfl

theorem toNat_ofSurrogates {high low : Nat} (hhigh : isHighSurrogate high = true)
    (hlow : isLowSurrogate low = true) :
    (ofSurrogates high low).toNat = 0x10000 + (high - 0xD800) * 0x400 + (low - 0xDC00) := by
  rw [isHighSurrogate_iff] at hhigh
  rw [isLowSurrogate_iff] at hlow
  -- ten bits from each half keep the sum above the surrogates and up to the last character
  exact toNat_ofNat (.inr (by omega))

/-- The number of a character is no surrogate. -/
theorem valid_toNat (c : Char) : c.toNat < 0xD800 ∨ (0xDFFF < c.toNat ∧ c.toNat < 0x110000) :=
  c.valid

/-- The first half of the pair that a character is escaped as. -/
theorem isHighSurrogate_toNat {c : Char} (hc : 0x10000 ≤ c.toNat) :
    isHighSurrogate (0xD800 + (c.toNat - 0x10000) / 0x400) = true := by
  have hvalid := valid_toNat c
  rw [isHighSurrogate_iff]
  omega

private theorem readEscape_unit {c : Char} {digits rest : List Char}
    (h : SpellsUnit c.toNat digits) : readEscape ('u' :: (digits ++ rest)) = .ok (c, rest) := by
  have hunit : readUnit (digits ++ rest) = .ok (c.toNat, rest) :=
    readUnit_eq_ok_iff.2 ⟨digits, h, rfl⟩
  have hvalid := valid_toNat c
  -- the number of a character is neither half of a pair
  have hlow : ¬ isLowSurrogate c.toNat = true := by
    rw [isLowSurrogate_iff]
    omega
  have hhigh : ¬ isHighSurrogate c.toNat = true := by
    rw [isHighSurrogate_iff]
    omega
  simp [readEscape, hunit, hlow, hhigh, bind, Except.bind]

private theorem readEscape_pair {c : Char} {high low rest : List Char} (hc : 0x10000 ≤ c.toNat)
    (hhigh : SpellsUnit (0xD800 + (c.toNat - 0x10000) / 0x400) high)
    (hlow : SpellsUnit (0xDC00 + (c.toNat - 0x10000) % 0x400) low) :
    readEscape ('u' :: (high ++ '\\' :: 'u' :: (low ++ rest))) = .ok (c, rest) := by
  have hisHigh := isHighSurrogate_toNat hc
  have hnotLow := not_isLowSurrogate hisHigh
  have hisLow : isLowSurrogate (0xDC00 + (c.toNat - 0x10000) % 0x400) = true := by
    rw [isLowSurrogate_iff]
    omega
  have hunit : readUnit (high ++ '\\' :: 'u' :: (low ++ rest)) = .ok (_, _) :=
    readUnit_eq_ok_iff.2 ⟨high, hhigh, rfl⟩
  have hread : readLowSurrogate ('\\' :: 'u' :: (low ++ rest)) = .ok (_, _) :=
    readLowSurrogate_eq_ok_iff.2 ⟨low, hlow, hisLow, rfl⟩
  have hchar : ofSurrogates (0xD800 + (c.toNat - 0x10000) / 0x400)
      (0xDC00 + (c.toNat - 0x10000) % 0x400) = c := by
    rw [← Char.toNat_inj, toNat_ofSurrogates hisHigh hisLow]
    omega
  simp [readEscape, hunit, hread, hnotLow, hisHigh, hchar, bind, Except.bind, pure, Except.pure]

private theorem readEscape_letter {l c : Char} {rest : List Char} (h : (l, c) ∈ letterEscapes) :
    readEscape (l :: rest) = .ok (c, rest) := by
  have hu : l ≠ 'u' := by
    rintro rfl
    simp [letterEscapes] at h
  simp [readEscape, hu, ofLetter?_eq_some_iff.2 h]

/-- An escape that is read spells the character that it is read as. -/
private theorem exists_of_readEscape {text rest : List Char} {c : Char}
    (h : readEscape text = .ok (c, rest)) :
    ∃ w, SpellsChar c ('\\' :: w) ∧ text = w ++ rest := by
  unfold readEscape at h
  split at h
  · simp at h
  next letter tail =>
  split at h
  · next hu =>
    obtain ⟨⟨n, rest'⟩, hunit, hn⟩ := bind_eq_ok.1 h
    obtain ⟨w, hw, rfl⟩ := readUnit_eq_ok_iff.1 hunit
    have hlt := spellsUnit_lt hw
    dsimp only at hn
    split at hn
    · simp at hn
    next hlow =>
    split at hn
    · next hhigh =>
      obtain ⟨⟨m, rest''⟩, hread, hm⟩ := bind_eq_ok.1 hn
      obtain ⟨w', hw', hlow', rfl⟩ := readLowSurrogate_eq_ok_iff.1 hread
      simp only [pure, Except.pure, Except.ok.injEq, Prod.mk.injEq] at hm
      obtain ⟨rfl, rfl⟩ := hm
      have hc := toNat_ofSurrogates hhigh hlow'
      rw [isHighSurrogate_iff] at hhigh
      rw [isLowSurrogate_iff] at hlow'
      -- the two units are the quotient and the remainder of the character's number
      have hn : 0xD800 + ((ofSurrogates n m).toNat - 0x10000) / 0x400 = n := by omega
      have hm : 0xDC00 + ((ofSurrogates n m).toNat - 0x10000) % 0x400 = m := by omega
      refine ⟨'u' :: w ++ '\\' :: 'u' :: w', .pair (by omega) ?_ ?_, by simp [hu]⟩
      · rw [hn]
        exact hw
      · rw [hm]
        exact hw'
    · next hhigh =>
      rw [isHighSurrogate_iff] at hhigh
      rw [isLowSurrogate_iff] at hlow
      simp only [Except.ok.injEq, Prod.mk.injEq] at hn
      obtain ⟨rfl, rfl⟩ := hn
      have hc : (Char.ofNat n).toNat = n := toNat_ofNat (by omega)
      refine ⟨'u' :: w, .unit ?_, by simp [hu]⟩
      rw [hc]
      exact hw
  · split at h
    · next hletter =>
      simp only [Except.ok.injEq, Prod.mk.injEq] at h
      obtain ⟨rfl, rfl⟩ := h
      exact ⟨[letter], .letter (ofLetter?_eq_some_iff.1 hletter), rfl⟩
    · simp at h

/-- Behind its backslash an escape is read exactly as it is spelled. -/
theorem readEscape_eq_ok_iff {text rest : List Char} {c : Char} :
    readEscape text = .ok (c, rest) ↔ ∃ w, SpellsChar c ('\\' :: w) ∧ text = w ++ rest := by
  constructor
  · exact exists_of_readEscape
  · intro h
    rcases h with ⟨w, hw, rfl⟩
    cases hw with
    | raw _ _ hbackslash => exact absurd rfl hbackslash
    | letter h => exact readEscape_letter h
    | unit h => exact readEscape_unit h
    | pair hc hhigh hlow =>
      rw [List.append_eq, List.append_assoc]
      exact readEscape_pair hc hhigh hlow

/-! ## Whole strings -/

/-- A spelling is the character itself or starts with a backslash. -/
theorem spellsChar_cases {c : Char} {w : List Char} (h : SpellsChar c w) :
    (w = [c] ∧ ' ' ≤ c ∧ c ≠ '"' ∧ c ≠ '\\') ∨ ∃ w', w = '\\' :: w' := by
  cases h with
  | raw hspace hquote hbackslash => exact .inl ⟨rfl, hspace, hquote, hbackslash⟩
  | letter | unit | pair => exact .inr ⟨_, rfl⟩

/-- A character is read as it is spelled, and then what follows it. -/
theorem read_append_of_spellsChar {c : Char} {w : List Char} (h : SpellsChar c w)
    (rest : List Char) :
    read (w ++ rest) = (read rest).map fun (content, rest') => (c :: content, rest') := by
  -- whether the reader goes into an escape shows in the first character of the spelling
  rcases spellsChar_cases h with ⟨rfl, hspace, hquote, hbackslash⟩ | ⟨w', rfl⟩
  · rw [List.singleton_append, read, if_neg hquote, if_neg hbackslash,
      if_neg (Char.not_lt.2 hspace)]
    cases read rest <;> rfl
  · have hescape : readEscape (w' ++ rest) = .ok (c, rest) := readEscape_eq_ok_iff.2 ⟨w', h, rfl⟩
    rw [List.cons_append, read, if_neg (by decide), if_pos rfl]
    split
    · next h => simp [hescape] at h
    · next h =>
      rw [hescape] at h
      obtain ⟨rfl, rfl⟩ := Prod.mk.inj (Except.ok.inj h)
      cases read rest <;> rfl

/-- A string is read exactly as it is spelled, up to its closing quotation mark. -/
theorem read_eq_ok_iff {text content rest : List Char} :
    read text = .ok (content, rest) ↔
      ∃ body, SpellsText content body ∧ text = body ++ '"' :: rest := by
  constructor
  · intro h
    -- the cases are those of the reader, and all but three of them end in an error
    fun_induction read text generalizing content with
    | case1 => simp at h
    | case2 rest' =>
      simp only [Except.ok.injEq, Prod.mk.injEq] at h
      obtain ⟨rfl, rfl⟩ := h
      exact ⟨[], .nil, rfl⟩
    | case3 => simp at h
    | case4 => simp at h
    | case5 _ d rest' hescape tail _ hread _ ih =>
      simp only [Except.ok.injEq, Prod.mk.injEq] at h
      obtain ⟨rfl, rfl⟩ := h
      obtain ⟨body, hbody, rfl⟩ := ih hread
      obtain ⟨w, hw, rfl⟩ := readEscape_eq_ok_iff.1 hescape
      exact ⟨'\\' :: w ++ body, .cons hw hbody, by simp⟩
    | case6 => simp at h
    | case7 => simp at h
    | case8 c rest' hquote hbackslash hspace tail _ hread ih =>
      simp only [Except.ok.injEq, Prod.mk.injEq] at h
      obtain ⟨rfl, rfl⟩ := h
      obtain ⟨body, hbody, rfl⟩ := ih hread
      exact ⟨[c] ++ body, .cons (.raw (Char.not_lt.1 hspace) hquote hbackslash) hbody, rfl⟩
  · intro h
    rcases h with ⟨body, hbody, rfl⟩
    induction hbody with
    | nil => rw [List.nil_append, read, if_pos rfl]
    | cons hc h ih =>
      rw [List.append_assoc, read_append_of_spellsChar hc, ih]
      rfl

/-! ## The written form -/

/-- A character below the space that has no letter is written by its number. -/
private theorem spellsUnit_control {n : Nat} (h : n < 0x20) :
    SpellsUnit n ['0', '0', Nat.digitChar (n / 16), Nat.digitChar (n % 16)] := by
  have hzero : SpellsDigit 0 '0' := ⟨by omega, .inl rfl⟩
  have hunit := SpellsUnit.digits hzero hzero
    (⟨by omega, .inl rfl⟩ : SpellsDigit (n / 16) (Nat.digitChar (n / 16)))
    (⟨by omega, .inl rfl⟩ : SpellsDigit (n % 16) (Nat.digitChar (n % 16)))
  rwa [show ((0 * 16 + 0) * 16 + n / 16) * 16 + n % 16 = n by omega] at hunit

theorem spellsChar_writeChar (c : Char) : SpellsChar c (writeChar c) := by
  unfold writeChar
  split <;> try exact .letter (by decide)
  -- what is left is a character without a letter
  · next hquote hbackslash _ _ _ _ _ =>
    split
    · next hc => exact .unit (spellsUnit_control hc)
    · next hc => exact .raw (Char.not_lt.1 hc) hquote hbackslash

theorem spellsText_write (text : List Char) : SpellsText text (text.flatMap writeChar) := by
  induction text with
  | nil => exact .nil
  | cons c text ih =>
    rw [List.flatMap_cons]
    exact .cons (spellsChar_writeChar c) ih

end GreetingCheck.Json.Quotation
