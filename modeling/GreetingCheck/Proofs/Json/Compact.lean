import GreetingCheck.Proofs.Json.Integer
import GreetingCheck.Proofs.Json.Quotation

/-!
# Compact JSON

What is written without blanks spells the value that is written, as long as its numbers are in
form (`Writable`), and blanks around it change nothing. No spelling of a token holds a control
character, so compact JSON is a single line.
-/

namespace GreetingCheck.Json

/-! ## The written form -/

theorem spellsToken_write {t : Token} (h : ∀ n, t = .number n → n.WellFormed) :
    SpellsToken t t.write := by
  cases t with
  | number n => exact ⟨h n rfl, rfl⟩
  | text s => exact ⟨_, Quotation.spellsText_write s.toList, rfl⟩
  | _ => exact rfl

/-- A value whose numbers are in form. -/
def Writable (v : Json) : Prop := ∀ n, Token.number n ∈ v.tokens → n.WellFormed

/-- A value whose numbers are integers of at most 53 bits. -/
def Small (v : Json) : Prop := ∀ n, Token.number n ∈ v.tokens → n.Small

theorem Small.writable {v : Json} (h : v.Small) : v.Writable := fun n hn => (h n hn).wellFormed

theorem Small.inRange {v : Json} (h : v.Small) : v.InRange := fun n hn => (h n hn).overflows

theorem Writable.spellsToken {v : Json} (h : v.Writable) : ∀ t ∈ v.tokens, SpellsToken t t.write :=
  fun _ ht => spellsToken_write fun n hn => h n (hn ▸ ht)

theorem spelledBy_compact {v : Json} (h : v.Writable) : v.SpelledBy v.compact := by
  rw [SpelledBy, compact, String.toList_ofList]
  exact Spells.flatMap_write h.spellsToken

/-- Blanks around a text change nothing. -/
theorem SpelledBy.surround {v : Json} {text : String} {before after : List Char}
    (h : v.SpelledBy text) (hbefore : ∀ c ∈ before, isBlank c) (hafter : ∀ c ∈ after, isBlank c) :
    v.SpelledBy (.ofList before ++ text ++ .ofList after) := by
  rw [SpelledBy, String.toList_append, String.toList_append, String.toList_ofList,
    String.toList_ofList]
  exact Spells.append_blanks (Spells.blanks_append h hbefore) hafter

/-! ## No control characters -/

private theorem space_le_of_all {w : List Char} (h : w.all (' ' ≤ ·) = true) : ∀ c ∈ w, ' ' ≤ c := by
  simpa using h

private theorem space_le_of_spellsUnit {n : Nat} {w : List Char} (h : SpellsUnit n w) :
    ∀ c ∈ w, ' ' ≤ c := by
  have hdigit {k : Nat} {c : Char} (hc : SpellsDigit k c) : ' ' ≤ c := by
    obtain ⟨hk, rfl | rfl⟩ := hc
    · interval_cases k <;> decide
    · interval_cases k <;> decide
  cases h with
  | digits ha hb hc hd =>
    simp only [List.forall_mem_cons]
    exact ⟨hdigit ha, hdigit hb, hdigit hc, hdigit hd, by simp⟩

private theorem space_le_of_spellsChar {c : Char} {w : List Char} (h : SpellsChar c w) :
    ∀ x ∈ w, ' ' ≤ x := by
  cases h with
  | raw hspace => simpa using hspace
  | letter h =>
    have hletters : ∀ e ∈ letterEscapes, ' ' ≤ e.1 := by decide
    simp only [List.forall_mem_cons]
    exact ⟨by decide, hletters _ h, by simp⟩
  | unit h =>
    simp only [List.forall_mem_cons]
    exact ⟨by decide, by decide, space_le_of_spellsUnit h⟩
  | pair _ hhigh hlow =>
    -- two units, each behind its backslash and its letter
    simp only [List.cons_append, List.forall_mem_cons, List.forall_mem_append]
    exact ⟨by decide, by decide, space_le_of_spellsUnit hhigh, by decide, by decide,
      space_le_of_spellsUnit hlow⟩

private theorem space_le_of_spellsText {text body : List Char} (h : SpellsText text body) :
    ∀ x ∈ body, ' ' ≤ x := by
  induction h with
  | nil => simp
  | cons hc h ih => exact List.forall_mem_append.2 ⟨space_le_of_spellsChar hc, ih⟩

private theorem space_le_of_isDigits {digits : List Char} (h : IsDigits digits) :
    ∀ c ∈ digits, ' ' ≤ c := by
  intro c hc
  have hdigit := h.2 c hc
  rw [Char.isDigit, Bool.and_eq_true, decide_eq_true_eq] at hdigit
  exact Char.le_trans (by decide : ' ' ≤ '0') hdigit.1

private theorem space_le_of_numeral {n : Numeral} (h : n.WellFormed) : ∀ c ∈ n.write, ' ' ≤ c := by
  have hfraction : ∀ c ∈ Numeral.writeFraction n.fraction, ' ' ≤ c := by
    cases hcase : n.fraction with
    | none => simp [Numeral.writeFraction]
    | some digits =>
      exact List.forall_mem_cons.2 ⟨by decide, space_le_of_isDigits (h.fraction digits hcase)⟩
  have hscale : ∀ c ∈ Numeral.writeScale n.scale, ' ' ≤ c := by
    cases hcase : n.scale with
    | none => simp [Numeral.writeScale]
    | some s =>
      refine List.forall_mem_cons.2 ⟨by split <;> decide, List.forall_mem_append.2 ⟨?_, ?_⟩⟩
      · cases s.sign <;> exact space_le_of_all (by decide)
      · exact space_le_of_isDigits (h.scale s hcase)
  have hsign : ∀ c ∈ if n.negative then ['-'] else [], ' ' ≤ c := by
    cases n.negative <;> exact space_le_of_all (by decide)
  rw [Numeral.write]
  simp only [List.forall_mem_append]
  exact ⟨⟨⟨hsign, space_le_of_isDigits h.whole⟩, hfraction⟩, hscale⟩

/-- A token is spelled without control characters. -/
theorem space_le_of_spellsToken {t : Token} {w : List Char} (h : SpellsToken t w) :
    ∀ c ∈ w, ' ' ≤ c := by
  cases t with
  | number n =>
    obtain ⟨hform, rfl⟩ := h
    exact space_le_of_numeral hform
  | text s =>
    obtain ⟨body, hbody, rfl⟩ := h
    simp only [List.cons_append, List.forall_mem_cons, List.forall_mem_append]
    exact ⟨by decide, space_le_of_spellsText hbody, by decide, by simp⟩
  | boolean b =>
    rw [show w = _ from h]
    cases b <;> exact space_le_of_all (by decide)
  | _ =>
    rw [show w = _ from h]
    exact space_le_of_all (by decide)

/-- Compact JSON holds no control character, and in particular no end of a line. -/
theorem space_le_of_mem_compact {v : Json} (h : v.Writable) : ∀ c ∈ v.compact.toList, ' ' ≤ c := by
  intro c hc
  rw [compact, String.toList_ofList, List.mem_flatMap] at hc
  obtain ⟨t, ht, hmem⟩ := hc
  exact space_le_of_spellsToken (h.spellsToken t ht) c hmem

end GreetingCheck.Json
