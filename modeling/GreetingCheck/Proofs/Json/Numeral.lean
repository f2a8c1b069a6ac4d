import GreetingCheck.Proofs.Json.Spelling
import GreetingCheck.Proofs.Text.Span

/-!
# Numbers are read as they are spelled

What `Numeral.read` accepts is a well-formed numeral as it is written, and not out of range
(`spells_of_read`). The other way round a numeral is read in full only where nothing follows that
could be a further part of it: `Delimited` is what that takes, and `read_write` the result, which
is a refusal for a numeral out of range.
-/

namespace GreetingCheck.Json.Numeral

/-! ## What may follow -/

/-- A text that does not go on with a digit. -/
def NoDigit (rest : List Char) : Prop := ∀ c, rest.head? = some c → c.isDigit = false

/-- A text that does not go on with anything that could belong to a number. -/
def Delimited (rest : List Char) : Prop :=
  ∀ c, rest.head? = some c → c.isDigit = false ∧ c ≠ '.' ∧ c ≠ 'e' ∧ c ≠ 'E'

theorem Delimited.noDigit {rest : List Char} (h : Delimited rest) : NoDigit rest :=
  fun c hc => (h c hc).1

theorem noDigit_cons {c : Char} {rest : List Char} (h : c.isDigit = false) :
    NoDigit (c :: rest) := by
  intro d hd
  rw [List.head?_cons, Option.some.injEq] at hd
  rw [← hd, h]

private theorem noDigit_writeFraction {rest : List Char} (fraction : Option (List Char))
    (h : NoDigit rest) : NoDigit (writeFraction fraction ++ rest) := by
  cases fraction with
  | none => exact h
  | some digits => exact noDigit_cons rfl

private theorem noDigit_writeScale {rest : List Char} (scale : Option Scale)
    (h : NoDigit rest) : NoDigit (writeScale scale ++ rest) := by
  cases scale with
  | none => exact h
  | some s =>
    apply noDigit_cons
    split <;> rfl

/-! ## Digits -/

theorem readDigits_eq_ok_iff {text digits rest : List Char} :
    readDigits text = .ok (digits, rest) ↔ IsDigits digits ∧ NoDigit rest ∧
      text = digits ++ rest := by
  dsimp only [readDigits]
  constructor
  · intro h
    split at h
    · simp at h
    next hne =>
    simp only [Except.ok.injEq, Prod.mk.injEq] at h
    obtain ⟨rfl, rfl⟩ := h
    -- the digits were taken as far as they go
    exact ⟨⟨by simpa using hne, List.all_eq_true.1 List.all_takeWhile⟩,
      Text.head_dropWhile Char.isDigit text, List.takeWhile_append_dropWhile.symm⟩
  · intro h
    rcases h with ⟨⟨hne, hdigits⟩, hrest, rfl⟩
    rw [Text.takeWhile_append_of_head hrest, List.takeWhile_eq_self_iff.2 hdigits,
      List.dropWhile_append_of_pos hdigits, Text.dropWhile_of_head hrest,
      if_neg (by simpa using hne)]

theorem readWhole_eq_ok_iff {text digits rest : List Char} :
    readWhole text = .ok (digits, rest) ↔ IsDigits digits ∧
      (digits.head? = some '0' → digits.length = 1) ∧ NoDigit rest ∧ text = digits ++ rest := by
  constructor
  · intro h
    obtain ⟨⟨_, _⟩, hread, hzero⟩ := bind_eq_ok.1 h
    obtain ⟨hdigits, hrest, htext⟩ := readDigits_eq_ok_iff.1 hread
    dsimp only at hzero
    split at hzero
    · simp at hzero
    next hone =>
    simp only [Except.ok.injEq, Prod.mk.injEq] at hzero
    obtain ⟨rfl, rfl⟩ := hzero
    have hlength := List.length_pos_iff.2 hdigits.1
    exact ⟨hdigits, fun h => Nat.le_antisymm (Nat.not_lt.1 fun hlt => hone ⟨h, hlt⟩) hlength,
      hrest, htext⟩
  · intro h
    rcases h with ⟨hdigits, hzero, hrest, htext⟩
    have hread := readDigits_eq_ok_iff.2 ⟨hdigits, hrest, htext⟩
    have hone : ¬ (digits.head? = some '0' ∧ 1 < digits.length) := by
      intro h
      rcases h with ⟨h, hlt⟩
      rw [hzero h] at hlt
      exact absurd hlt (by decide)
    simp [readWhole, hread, hone, bind, Except.bind]

/-! ## Fraction and power of ten -/

private theorem spells_of_readFraction {text rest : List Char} {fraction : Option (List Char)}
    (h : readFraction text = .ok (fraction, rest)) :
    (∀ digits, fraction = some digits → IsDigits digits) ∧
      text = writeFraction fraction ++ rest := by
  unfold readFraction at h
  split at h
  · obtain ⟨⟨digits, _⟩, hread, hpure⟩ := bind_eq_ok.1 h
    obtain ⟨hdigits, _, rfl⟩ := readDigits_eq_ok_iff.1 hread
    simp only [pure, Except.pure, Except.ok.injEq, Prod.mk.injEq] at hpure
    obtain ⟨rfl, rfl⟩ := hpure
    exact ⟨fun _ h => Option.some.inj h ▸ hdigits, rfl⟩
  · simp only [Except.ok.injEq, Prod.mk.injEq] at h
    obtain ⟨rfl, rfl⟩ := h
    exact ⟨fun _ h => by simp at h, rfl⟩

private theorem readFraction_write {rest : List Char} {fraction : Option (List Char)}
    (hfraction : ∀ digits, fraction = some digits → IsDigits digits) (hrest : NoDigit rest)
    (hpoint : rest.head? ≠ some '.') :
    readFraction (writeFraction fraction ++ rest) = .ok (fraction, rest) := by
  cases fraction with
  | none =>
    unfold writeFraction readFraction
    rw [List.nil_append]
    split
    · simp at hpoint
    · rfl
  | some digits =>
    have hread := readDigits_eq_ok_iff.2 ⟨hfraction digits rfl, hrest, rfl⟩
    simp [writeFraction, readFraction, hread, bind, Except.bind, pure, Except.pure]

/-- A sign takes itself off the front of the text and nothing else. -/
private theorem eq_of_readSign (text : List Char) :
    text = writeSign (readSign text).1 ++ (readSign text).2 := by
  unfold readSign
  split <;> rfl

private theorem readSign_write (sign : Sign) {digits rest : List Char} (h : IsDigits digits) :
    readSign (writeSign sign ++ (digits ++ rest)) = (sign, digits ++ rest) := by
  obtain ⟨hne, hdigits⟩ := h
  cases digits with
  | nil => exact absurd rfl hne
  | cons c digits =>
    have hc := hdigits c List.mem_cons_self
    cases sign with
    | plus | minus => rfl
    | absent =>
      -- a digit is neither of the two signs
      unfold writeSign readSign
      simp only [List.nil_append, List.cons_append]
      split
      · next h => exact absurd (List.cons.inj h).1 (by rintro rfl; simp at hc)
      · next h => exact absurd (List.cons.inj h).1 (by rintro rfl; simp at hc)
      · rfl

private theorem spells_of_readScale {text rest : List Char} {scale : Option Scale}
    (h : readScale text = .ok (scale, rest)) :
    (∀ s, scale = some s → IsDigits s.digits) ∧ text = writeScale scale ++ rest := by
  unfold readScale at h
  split at h
  · simp only [Except.ok.injEq, Prod.mk.injEq] at h
    obtain ⟨rfl, rfl⟩ := h
    exact ⟨fun _ h => by simp at h, rfl⟩
  next letter tail =>
  split at h
  · next hletter =>
    have hsign := eq_of_readSign tail
    rcases hread : readSign tail with ⟨sign, tail'⟩
    rw [hread] at h hsign
    obtain ⟨⟨digits, rest'⟩, hread, hpure⟩ := bind_eq_ok.1 h
    obtain ⟨hdigits, _, rfl⟩ := readDigits_eq_ok_iff.1 hread
    simp only [pure, Except.pure, Except.ok.injEq, Prod.mk.injEq] at hpure
    obtain ⟨rfl, rfl⟩ := hpure
    refine ⟨fun _ h => Option.some.inj h ▸ hdigits, ?_⟩
    rw [hsign, writeScale, List.cons_append, List.append_assoc]
    rcases hletter with rfl | rfl <;> rfl
  · simp only [Except.ok.injEq, Prod.mk.injEq] at h
    obtain ⟨rfl, rfl⟩ := h
    exact ⟨fun _ h => by simp at h, rfl⟩

private theorem readScale_write {rest : List Char} {scale : Option Scale}
    (hscale : ∀ s, scale = some s → IsDigits s.digits) (hrest : Delimited rest) :
    readScale (writeScale scale ++ rest) = .ok (scale, rest) := by
  cases scale with
  | none =>
    cases rest with
    | nil => rfl
    | cons c rest =>
      obtain ⟨_, _, he, hE⟩ := hrest c rfl
      simp [writeScale, readScale, he, hE]
  | some s =>
    have hdigits := hscale s rfl
    have hread := readDigits_eq_ok_iff.2 ⟨hdigits, hrest.noDigit, rfl⟩
    have hsign : readSign (writeSign s.sign ++ (s.digits ++ rest)) = _ :=
      readSign_write s.sign hdigits
    obtain ⟨capital, sign, digits⟩ := s
    cases capital <;>
      simp_all [writeScale, readScale, bind, Except.bind, pure, Except.pure]

/-! ## Whole numerals -/

/-- A numeral starts with its sign or with a digit. -/
theorem exists_cons_write {n : Numeral} (hn : n.WellFormed) :
    ∃ c w, n.write = c :: w ∧ (c = '-' ∨ c.isDigit = true) := by
  obtain ⟨negative, whole, fraction, scale⟩ := n
  obtain ⟨hne, hdigits⟩ := hn.whole
  cases negative with
  | true => exact ⟨'-', _, rfl, .inl rfl⟩
  | false =>
    cases whole with
    | nil => exact absurd rfl hne
    | cons c whole => exact ⟨c, _, rfl, .inr (hdigits c List.mem_cons_self)⟩

/-- What is read as a numeral is well formed, in range, and written that way. -/
theorem spells_of_read {text rest : List Char} {n : Numeral} (h : read text = .ok (n, rest)) :
    n.WellFormed ∧ n.overflows = false ∧ text = n.write ++ rest := by
  obtain ⟨⟨whole, rest₁⟩, hwhole, h⟩ := bind_eq_ok.1 h
  obtain ⟨⟨fraction, rest₂⟩, hfraction, h⟩ := bind_eq_ok.1 h
  obtain ⟨⟨scale, rest₃⟩, hscale, h⟩ := bind_eq_ok.1 h
  dsimp only at hfraction hscale h
  split at h
  · simp at h
  next hrange =>
  simp only [Except.ok.injEq, Prod.mk.injEq] at h
  obtain ⟨rfl, rfl⟩ := h
  obtain ⟨hdigits, hzero, _, htext⟩ := readWhole_eq_ok_iff.1 hwhole
  obtain ⟨hpart, rfl⟩ := spells_of_readFraction hfraction
  obtain ⟨hpower, rfl⟩ := spells_of_readScale hscale
  refine ⟨⟨hdigits, hzero, hpart, hpower⟩, by simpa using hrange, ?_⟩
  -- what is left to show is that the sign is what was taken off in front of the digits
  have hsign : text =
      (if text.head? = some '-' then ['-'] else []) ++
        (if text.head? = some '-' then text.tail else text) := by
    cases text with
    | nil => rfl
    | cons c tail => by_cases hc : c = '-' <;> simp [hc]
  rw [htext] at hsign
  simpa [write] using hsign

/-- The digits in front of the point do not start with a minus sign. -/
private theorem head?_ne_minus {digits rest : List Char} (h : IsDigits digits) :
    (digits ++ rest).head? ≠ some '-' := by
  obtain ⟨hne, hdigits⟩ := h
  cases digits with
  | nil => exact absurd rfl hne
  | cons c digits =>
    have hc := hdigits c List.mem_cons_self
    rw [List.cons_append, List.head?_cons, ne_eq, Option.some.injEq]
    rintro rfl
    exact absurd hc (by decide)

private theorem head?_writeScale_ne_point {rest : List Char} (scale : Option Scale)
    (h : Delimited rest) : (writeScale scale ++ rest).head? ≠ some '.' := by
  cases scale with
  | none => exact fun hpoint => (h _ hpoint).2.1 rfl
  | some s =>
    rw [writeScale, List.cons_append, List.head?_cons, ne_eq, Option.some.injEq]
    split <;> decide

/-- A minus sign in front is taken for the sign of the numeral. -/
private theorem read_signed {negative : Bool} {body : List Char} (h : body.head? ≠ some '-') :
    read ((if negative then ['-'] else []) ++ body) = (do
      let (whole, rest) ← readWhole body
      let (fraction, rest) ← readFraction rest
      let (scale, rest) ← readScale rest
      let numeral : Numeral := ⟨negative, whole, fraction, scale⟩
      if numeral.overflows then .error .malformed else .ok (numeral, rest)) := by
  cases negative <;> simp [read, h]

/-- A numeral in front of something that cannot belong to it is read in full, and then taken or
refused as a whole. -/
theorem read_write {n : Numeral} {rest : List Char} (hn : n.WellFormed) (hrest : Delimited rest) :
    read (n.write ++ rest) = if n.overflows then .error .malformed else .ok (n, rest) := by
  -- from back to front, since every part is read in full only because of what follows it
  have hscale := readScale_write hn.scale hrest
  have hfraction := readFraction_write hn.fraction (noDigit_writeScale n.scale hrest.noDigit)
    (head?_writeScale_ne_point n.scale hrest)
  have hwhole := readWhole_eq_ok_iff.2 ⟨hn.whole, hn.zero,
    noDigit_writeFraction n.fraction (noDigit_writeScale n.scale hrest.noDigit), rfl⟩
  rw [write, List.append_assoc, List.append_assoc, List.append_assoc,
    read_signed (head?_ne_minus hn.whole), hwhole]
  simp only [bind, Except.bind, hfraction, hscale]

end GreetingCheck.Json.Numeral
