import Mathlib.Tactic.IntervalCases
import GreetingCheck.Text.Utf8

/-!
# UTF-8 there and back

Reading the bytes of a text gives back the text (`decode?_encode`), and no other bytes are read as
it, not even by the reading that puts replacement characters in (`decode?_eq_some_iff`,
`decodeLossy_eq_iff`). A byte below 0x80 occurs among the bytes of a text only where its own
character does (`mem_of_mem_encode`), so that a text without such a character has no such byte
either.
-/

namespace GreetingCheck.Text.Utf8

/-! ## One character -/

private theorem toNat_byte {n : Nat} (h : n < 256) : (UInt8.ofNat n).toNat = n :=
  UInt8.toNat_ofNat_of_lt' h

private theorem first?_two {k : Nat} (hlow : 2 ≤ k) (hhigh : k < 32) :
    first? (UInt8.ofNat (k + 0xC0)) = some (k, [anyTail]) := by
  simp only [first?, toNat_byte (n := k + 0xC0) (by omega)]
  rw [if_neg (by omega), if_neg (by omega), if_pos (by omega)]
  congr 2
  omega

private theorem first?_three {k : Nat} (h : k < 16) :
    first? (UInt8.ofNat (k + 0xE0)) =
      some (k, [if k = 0 then ⟨0xA0, 0xBF⟩ else if k = 13 then ⟨0x80, 0x9F⟩ else anyTail,
        anyTail]) := by
  interval_cases k <;> rfl

private theorem first?_four {k : Nat} (h : k < 5) :
    first? (UInt8.ofNat (k + 0xF0)) =
      some (k, [if k = 0 then ⟨0x90, 0xBF⟩ else if k = 4 then ⟨0x80, 0x8F⟩ else anyTail,
        anyTail, anyTail]) := by
  interval_cases k <;> rfl

/-- A byte that has to follow contributes the six bits that it was made of. -/
private theorem readTail_next {bits k : Nat} {span : Span} {spans : List Span} {rest : List UInt8}
    (hk : k < 64) (hlow : span.low ≤ k + 0x80) (hhigh : k + 0x80 ≤ span.high) :
    readTail bits (span :: spans) (UInt8.ofNat (k + 0x80) :: rest) =
      readTail (bits * 64 + k) spans rest := by
  have hbyte : (UInt8.ofNat (k + 0x80)).toNat = k + 0x80 := toNat_byte (by omega)
  have hcontains : span.contains (UInt8.ofNat (k + 0x80)) = true := by
    simp only [Span.contains, hbyte, Bool.and_eq_true, decide_eq_true_eq]
    exact ⟨hlow, hhigh⟩
  rw [readTail, if_pos hcontains, hbyte]
  congr 1
  omega

private theorem readTail_any {bits k : Nat} {spans : List Span} {rest : List UInt8}
    (hk : k < 64) :
    readTail bits (anyTail :: spans) (UInt8.ofNat (k + 0x80) :: rest) =
      readTail (bits * 64 + k) spans rest := by
  apply readTail_next hk <;> simp only [anyTail] <;> omega

/-- The bytes of a character are read as that character, whatever comes behind them. -/
theorem readPiece_encodeChar (c : Char) (rest : List UInt8) :
    ∃ b tail, String.utf8EncodeChar c = b :: tail ∧
      readPiece b (tail ++ rest) = (some c, rest) := by
  have hvalid : c.toNat < 0xD800 ∨ (0xDFFF < c.toNat ∧ c.toNat < 0x110000) := c.valid
  have hc : Char.ofNat c.toNat = c := c.ofNat_toNat
  unfold String.utf8EncodeChar
  rw [Char.toNat_val]
  generalize c.toNat = n at hvalid hc
  simp only
  by_cases h1 : n ≤ 0x7F
  · rw [if_pos h1]
    refine ⟨_, [], rfl, ?_⟩
    have hfirst : first? (UInt8.ofNat n) = some (n, []) := by
      simp only [first?, toNat_byte (n := n) (by omega)]
      rw [if_pos (by omega)]
    rw [readPiece, hfirst]
    simp [readTail, hc]
  rw [if_neg h1]
  by_cases h2 : n ≤ 0x7FF
  · rw [if_pos h2]
    refine ⟨_, _, rfl, ?_⟩
    rw [readPiece, first?_two (by omega) (by omega)]
    simp only [List.cons_append, List.nil_append]
    rw [readTail_any (by omega), show n / 64 % 32 * 64 + n % 64 = n by omega]
    simp [readTail, hc]
  rw [if_neg h2]
  by_cases h3 : n ≤ 0xFFFF
  · rw [if_pos h3]
    refine ⟨_, _, rfl, ?_⟩
    rw [readPiece, first?_three (by omega)]
    simp only [List.cons_append, List.nil_append]
    -- the lead bytes E0 and ED narrow the span of the second byte
    rw [readTail_next (by omega) (by split_ifs <;> simp only [anyTail] <;> omega)
      (by split_ifs <;> simp only [anyTail] <;> omega), readTail_any (by omega),
      show (n / 4096 % 16 * 64 + n / 64 % 64) * 64 + n % 64 = n by omega]
    simp [readTail, hc]
  rw [if_neg h3]
  refine ⟨_, _, rfl, ?_⟩
  rw [readPiece, first?_four (by omega)]
  simp only [List.cons_append, List.nil_append]
  -- so do the lead bytes F0 and F4
  rw [readTail_next (by omega) (by split_ifs <;> simp only [anyTail] <;> omega)
    (by split_ifs <;> simp only [anyTail] <;> omega), readTail_any (by omega),
    readTail_any (by omega),
    show ((n / 262144 % 8 * 64 + n / 4096 % 64) * 64 + n / 64 % 64) * 64 + n % 64 = n by omega]
  simp [readTail, hc]

/-! ## Whole texts -/

@[simp] theorem encode_nil : encode [] = [] := rfl

@[simp] theorem encode_cons (c : Char) (text : List Char) :
    encode (c :: text) = String.utf8EncodeChar c ++ encode text := rfl

/-- The pieces of the bytes of a text are its characters. -/
theorem pieces_encode (text : List Char) : pieces (encode text) = text.map some := by
  induction text with
  | nil => rw [encode_nil, pieces, List.map_nil]
  | cons c text ih =>
    obtain ⟨b, tail, hbytes, hpiece⟩ := readPiece_encodeChar c (encode text)
    rw [encode_cons, hbytes, List.cons_append, pieces, hpiece, ih, List.map_cons]

theorem decode?_encode (text : List Char) : decode? (encode text) = some text := by
  rw [decode?, pieces_encode]
  induction text with
  | nil => rfl
  | cons c text ih => simp [ih]

/-! ## Bytes that are characters -/

/-- A byte below 0x80 stands for its own character only. -/
private theorem eq_of_mem_encodeChar {c : Char} {b : UInt8} (hb : b.toNat < 0x80)
    (h : b ∈ String.utf8EncodeChar c) : c.toNat = b.toNat := by
  unfold String.utf8EncodeChar at h
  rw [Char.toNat_val] at h
  have hbound : c.toNat < 0x110000 := by
    rcases c.valid with h | h
    · exact Nat.lt_trans h (by decide)
    · exact h.2
  generalize c.toNat = n at h hbound
  have hhead {k : Nat} (hk : 0x80 ≤ k) (hlt : k < 256) (heq : b = UInt8.ofNat k) : False := by
    rw [heq, toNat_byte hlt] at hb
    omega
  simp only at h
  split_ifs at h with h1 h2 h3
  · rw [List.mem_singleton] at h
    rw [h, toNat_byte (by omega)]
  all_goals
    simp only [List.mem_cons, List.not_mem_nil, or_false] at h
    exfalso
  · rcases h with h | h <;> exact hhead (by omega) (by omega) h
  · rcases h with h | h | h <;> exact hhead (by omega) (by omega) h
  · rcases h with h | h | h | h <;> exact hhead (by omega) (by omega) h

/-- A byte below 0x80 comes from its own character. -/
theorem mem_of_mem_encode {text : List Char} {b : UInt8} (hb : b.toNat < 0x80)
    (h : b ∈ encode text) : Char.ofNat b.toNat ∈ text := by
  obtain ⟨c, hc, hmem⟩ := List.mem_flatMap.1 h
  rw [← eq_of_mem_encodeChar hb hmem, c.ofNat_toNat]
  exact hc

/-! ## What is read -/

private theorem ofNat_eq {n : Nat} {b : UInt8} (h : n = b.toNat) : UInt8.ofNat n = b := by
  rw [h, UInt8.ofNat_toNat]

/-- A byte that has to follow and does so was in its span. -/
private theorem exists_of_readTail {bits value : Nat} {span : Span} {spans : List Span}
    {bytes rest : List UInt8} (h : readTail bits (span :: spans) bytes = (some value, rest)) :
    ∃ b tail, bytes = b :: tail ∧ span.low ≤ b.toNat ∧ b.toNat ≤ span.high ∧
      readTail (bits * 64 + b.toNat % 64) spans tail = (some value, rest) := by
  cases bytes with
  | nil => simp [readTail] at h
  | cons b tail =>
    rw [readTail] at h
    split at h
    next hspan =>
      simp only [Span.contains, Bool.and_eq_true, decide_eq_true_eq] at hspan
      exact ⟨b, tail, rfl, hspan.1, hspan.2, h⟩
    next => simp at h

/-- The four kinds of first bytes. -/
private theorem first?_cases {b : UInt8} {bits : Nat} {spans : List Span}
    (h : first? b = some (bits, spans)) :
    (b.toNat < 0x80 ∧ bits = b.toNat ∧ spans = []) ∨
    (0xC2 ≤ b.toNat ∧ b.toNat < 0xE0 ∧ bits = b.toNat % 32 ∧ spans = [anyTail]) ∨
    (∃ span : Span, 0xE0 ≤ b.toNat ∧ b.toNat < 0xF0 ∧ bits = b.toNat % 16 ∧
      spans = [span, anyTail] ∧ 0x80 ≤ span.low ∧ span.high ≤ 0xBF ∧
      (b.toNat = 0xE0 → 0xA0 ≤ span.low) ∧ (b.toNat = 0xED → span.high ≤ 0x9F)) ∨
    (∃ span : Span, 0xF0 ≤ b.toNat ∧ b.toNat < 0xF5 ∧ bits = b.toNat % 8 ∧
      spans = [span, anyTail, anyTail] ∧ 0x80 ≤ span.low ∧ span.high ≤ 0xBF ∧
      (b.toNat = 0xF0 → 0x90 ≤ span.low) ∧ (b.toNat = 0xF4 → span.high ≤ 0x8F)) := by
  unfold first? at h
  simp only at h
  generalize b.toNat = n at h ⊢
  split_ifs at h <;>
    simp only [Option.some.injEq, Prod.mk.injEq] at h <;>
    obtain ⟨rfl, rfl⟩ := h
  · exact .inl ⟨by omega, rfl, rfl⟩
  · exact .inr (.inl ⟨by omega, by omega, rfl, rfl⟩)
  · exact .inr (.inr (.inl ⟨⟨0xA0, 0xBF⟩, by omega, by omega, by omega, rfl, by simp, by simp,
      by simp, by omega⟩))
  · exact .inr (.inr (.inl ⟨⟨0x80, 0x9F⟩, by omega, by omega, by omega, rfl, by simp, by simp,
      by omega, by simp⟩))
  · exact .inr (.inr (.inl ⟨anyTail, by omega, by omega, rfl, rfl, by simp [anyTail],
      by simp [anyTail], by omega, by omega⟩))
  · exact .inr (.inr (.inr ⟨⟨0x90, 0xBF⟩, by omega, by omega, by omega, rfl, by simp, by simp,
      by simp, by omega⟩))
  · exact .inr (.inr (.inr ⟨anyTail, by omega, by omega, rfl, rfl, by simp [anyTail],
      by simp [anyTail], by omega, by omega⟩))
  · exact .inr (.inr (.inr ⟨⟨0x80, 0x8F⟩, by omega, by omega, by omega, rfl, by simp, by simp,
      by omega, by simp⟩))

/-- The bytes of a character, by the number of the character. -/
private theorem encodeChar_ofNat {n : Nat} (h : n.isValidChar) :
    String.utf8EncodeChar (Char.ofNat n) =
      if n ≤ 0x7F then [UInt8.ofNat n]
      else if n ≤ 0x7FF then [UInt8.ofNat (n / 64 % 32 + 0xC0), UInt8.ofNat (n % 64 + 0x80)]
      else if n ≤ 0xFFFF then
        [UInt8.ofNat (n / 4096 % 16 + 0xE0), UInt8.ofNat (n / 64 % 64 + 0x80),
          UInt8.ofNat (n % 64 + 0x80)]
      else
        [UInt8.ofNat (n / 262144 % 8 + 0xF0), UInt8.ofNat (n / 4096 % 64 + 0x80),
          UInt8.ofNat (n / 64 % 64 + 0x80), UInt8.ofNat (n % 64 + 0x80)] := by
  have hn : (Char.ofNat n).toNat = n := by
    unfold Char.ofNat
    rw [dif_pos h]
    rfl
  unfold String.utf8EncodeChar
  rw [Char.toNat_val, hn]

/-- What was read as a character are the bytes of that character. -/
theorem encodeChar_of_readPiece {b : UInt8} {bytes rest : List UInt8} {c : Char}
    (h : readPiece b bytes = (some c, rest)) : b :: bytes = String.utf8EncodeChar c ++ rest := by
  unfold readPiece at h
  cases hfirst : first? b with
  | none => simp [hfirst] at h
  | some head =>
    obtain ⟨bits, spans⟩ := head
    simp only [hfirst, Prod.mk.injEq, Option.map_eq_some_iff] at h
    obtain ⟨⟨value, hvalue, rfl⟩, hrest⟩ := h
    have htail : readTail bits spans bytes = (some value, rest) := Prod.ext hvalue hrest
    have hb := b.toNat_lt
    rcases first?_cases hfirst with ⟨hlt, rfl, rfl⟩ | ⟨hlow, hhigh, rfl, rfl⟩ |
      ⟨span, hlow, hhigh, rfl, rfl, hspan, hspan', hnarrow, hnarrow'⟩ |
      ⟨span, hlow, hhigh, rfl, rfl, hspan, hspan', hnarrow, hnarrow'⟩
    · cases htail
      rw [encodeChar_ofNat (.inl (by omega)), if_pos (by omega), UInt8.ofNat_toNat]
      rfl
    · obtain ⟨b₁, _, rfl, hlow₁, hhigh₁, htail⟩ := exists_of_readTail htail
      cases htail
      simp only [anyTail] at hlow₁ hhigh₁
      rw [encodeChar_ofNat (.inl (by omega)), if_neg (by omega), if_pos (by omega),
        ofNat_eq (b := b) (by omega), ofNat_eq (b := b₁) (by omega)]
      rfl
    · obtain ⟨b₁, _, rfl, hlow₁, hhigh₁, htail⟩ := exists_of_readTail htail
      obtain ⟨b₂, _, rfl, hlow₂, hhigh₂, htail⟩ := exists_of_readTail htail
      cases htail
      simp only [anyTail] at hlow₂ hhigh₂
      -- the narrowed spans keep the value from being too small or a surrogate
      have hvalid : ((b.toNat % 16 * 64 + b₁.toNat % 64) * 64 + b₂.toNat % 64).isValidChar := by
        unfold Nat.isValidChar
        omega
      rw [encodeChar_ofNat hvalid, if_neg (by omega), if_neg (by omega), if_pos (by omega),
        ofNat_eq (b := b) (by omega), ofNat_eq (b := b₁) (by omega), ofNat_eq (b := b₂) (by omega)]
      rfl
    · obtain ⟨b₁, _, rfl, hlow₁, hhigh₁, htail⟩ := exists_of_readTail htail
      obtain ⟨b₂, _, rfl, hlow₂, hhigh₂, htail⟩ := exists_of_readTail htail
      obtain ⟨b₃, _, rfl, hlow₃, hhigh₃, htail⟩ := exists_of_readTail htail
      cases htail
      simp only [anyTail] at hlow₂ hhigh₂ hlow₃ hhigh₃
      -- and here from being too small or too large
      have hvalid : (((b.toNat % 8 * 64 + b₁.toNat % 64) * 64 + b₂.toNat % 64) * 64 +
          b₃.toNat % 64).isValidChar := by
        unfold Nat.isValidChar
        omega
      rw [encodeChar_ofNat hvalid, if_neg (by omega), if_neg (by omega), if_neg (by omega),
        ofNat_eq (b := b) (by omega), ofNat_eq (b := b₁) (by omega), ofNat_eq (b := b₂) (by omega),
        ofNat_eq (b := b₃) (by omega)]
      rfl

/-- If every piece is a character, the bytes are those of the characters. -/
theorem eq_encode_of_pieces {bytes : List UInt8} {text : List Char}
    (h : pieces bytes = text.map some) : bytes = encode text := by
  induction bytes using pieces.induct generalizing text with
  | case1 =>
    cases text with
    | nil => rfl
    | cons c rest => simp [pieces] at h
  | case2 b rest piece =>
    rename_i ih
    rw [pieces] at h
    cases text with
    | nil => cases h
    | cons c text =>
      rw [List.map_cons, List.cons.injEq] at h
      have hpiece : readPiece b rest = (some c, (readPiece b rest).2) := Prod.ext h.1 rfl
      rw [encodeChar_of_readPiece hpiece, encode_cons, ← ih h.2]

/-- Bytes spell a text exactly if they are the bytes of the text. -/
theorem decode?_eq_some_iff {bytes : List UInt8} {text : List Char} :
    decode? bytes = some text ↔ bytes = encode text := by
  constructor
  · intro h
    apply eq_encode_of_pieces
    rw [decode?] at h
    generalize pieces bytes = ps at h ⊢
    induction ps generalizing text with
    | nil =>
      cases h
      rfl
    | cons p ps ih =>
      rw [List.mapM_cons] at h
      obtain ⟨c, hp, h⟩ := Option.bind_eq_some_iff.1 h
      obtain ⟨rest, hrest, h⟩ := Option.bind_eq_some_iff.1 h
      cases h
      rw [ih hrest, List.map_cons, show p = some c from hp]
  · rintro rfl
    exact decode?_encode text

theorem decode?_eq_none_iff {bytes : List UInt8} :
    decode? bytes = none ↔ ∀ text, bytes ≠ encode text := by
  simp only [Option.eq_none_iff_forall_ne_some, Ne, decode?_eq_some_iff]

/-- The bytes of a text are shown as the text. -/
@[simp] theorem decodeLossy_encode (text : List Char) : decodeLossy (encode text) = text := by
  rw [decodeLossy, pieces_encode, List.map_map]
  exact List.map_id text

/-- A text without a replacement character is shown only for its own bytes. -/
theorem decodeLossy_eq_iff {bytes : List UInt8} {text : List Char} (htext : replacement ∉ text) :
    decodeLossy bytes = text ↔ bytes = encode text := by
  constructor
  · intro h
    apply eq_encode_of_pieces
    rw [decodeLossy] at h
    generalize pieces bytes = ps at h ⊢
    subst h
    rw [List.map_map]
    refine (List.map_id ps).symm.trans (List.map_congr_left ?_)
    intro p hp
    cases p with
    | none => exact absurd (List.mem_map.2 ⟨none, hp, rfl⟩) htext
    | some c => rfl
  · rintro rfl
    exact decodeLossy_encode text

/-- Bytes that are no text are not shown without a replacement character. -/
theorem replacement_mem_decodeLossy {bytes : List UInt8} (h : ∀ text, bytes ≠ encode text) :
    replacement ∈ decodeLossy bytes := by
  by_contra hnone
  exact h _ ((decodeLossy_eq_iff hnone).1 rfl)

end GreetingCheck.Text.Utf8
