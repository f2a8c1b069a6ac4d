import GreetingCheck.Proofs.Text.Span
import GreetingCheck.Text.Blank

/-!
# Text without the white space around it

`trim` takes off all of the white space at the two ends of a text and nothing else (`trim_eq_iff`).
A character that is none keeps the two ends apart (`trim_append_cons`), and the case of letters makes
no difference to what is white space (`trim_map_toLower`).
-/

namespace GreetingCheck.Text

/-! ## The start of a text -/

theorem trimStart_append {blanks : List Char} (h : ∀ c ∈ blanks, isBlank c) (text : List Char) :
    trimStart (blanks ++ text) = trimStart text :=
  List.dropWhile_append_of_pos h

theorem trimStart_of_head {text : List Char} (h : ∀ c ∈ text.head?, isBlank c = false) :
    trimStart text = text :=
  dropWhile_of_head h

theorem head_trimStart (text : List Char) : ∀ c ∈ (trimStart text).head?, isBlank c = false :=
  head_dropWhile isBlank text

theorem exists_blanks_trimStart (text : List Char) :
    ∃ blanks, text = blanks ++ trimStart text ∧ ∀ c ∈ blanks, isBlank c :=
  ⟨text.takeWhile isBlank, List.takeWhile_append_dropWhile.symm, fun _ hc =>
    List.mem_takeWhile_imp hc⟩

theorem trimStart_append_cons {c : Char} (hc : isBlank c = false) (front back : List Char) :
    trimStart (front ++ c :: back) = trimStart front ++ c :: back := by
  induction front with
  | nil => exact trimStart_of_head (by simpa using hc)
  | cons d front ih =>
    rw [trimStart] at ih ⊢
    rw [List.cons_append, trimStart, List.dropWhile_cons, List.dropWhile_cons]
    split
    · exact ih
    · rfl

/-! ## The end of a text -/

theorem trimEnd_append {blanks : List Char} (h : ∀ c ∈ blanks, isBlank c) (text : List Char) :
    trimEnd (text ++ blanks) = trimEnd text := by
  have hreverse : ∀ c ∈ blanks.reverse, isBlank c := by simpa using h
  rw [trimEnd, List.reverse_append, trimStart_append hreverse, trimEnd]

theorem trimEnd_of_last {text : List Char} (h : ∀ c ∈ text.getLast?, isBlank c = false) :
    trimEnd text = text := by
  rw [← List.head?_reverse] at h
  rw [trimEnd, trimStart_of_head h, List.reverse_reverse]

theorem last_trimEnd (text : List Char) : ∀ c ∈ (trimEnd text).getLast?, isBlank c = false := by
  rw [trimEnd, List.getLast?_reverse]
  exact head_trimStart text.reverse

theorem exists_blanks_trimEnd (text : List Char) :
    ∃ blanks, text = trimEnd text ++ blanks ∧ ∀ c ∈ blanks, isBlank c := by
  obtain ⟨blanks, hsplit, hblanks⟩ := exists_blanks_trimStart text.reverse
  refine ⟨blanks.reverse, ?_, by simpa using hblanks⟩
  rw [trimEnd, ← List.reverse_append, ← hsplit, List.reverse_reverse]

theorem trimEnd_append_cons {c : Char} (hc : isBlank c = false) (front back : List Char) :
    trimEnd (front ++ c :: back) = front ++ c :: trimEnd back := by
  have hreverse : (front ++ c :: back).reverse = back.reverse ++ c :: front.reverse := by simp
  rw [trimEnd, hreverse, trimStart_append_cons hc, trimEnd]
  simp

/-! ## Both ends -/

/-- A text and what it has between its blanks: any blanks in front and behind, and in between
something that neither begins nor ends with a blank. -/
inductive TrimsTo : List Char → List Char → Prop
  | surround {before core after : List Char} (hbefore : ∀ c ∈ before, isBlank c)
      (hafter : ∀ c ∈ after, isBlank c) (hhead : ∀ c ∈ core.head?, isBlank c = false)
      (hlast : ∀ c ∈ core.getLast?, isBlank c = false) :
      TrimsTo (before ++ core ++ after) core

theorem trim_eq_iff {text core : List Char} : trim text = core ↔ TrimsTo text core := by
  constructor
  · rintro rfl
    obtain ⟨before, hstart, hbefore⟩ := exists_blanks_trimStart text
    obtain ⟨after, hend, hafter⟩ := exists_blanks_trimEnd (trimStart text)
    have htext : text = before ++ trim text ++ after := by
      rw [List.append_assoc, trim, ← hend, ← hstart]
    -- what is left begins like the text without the blanks in front, unless nothing is left
    have hhead : ∀ c ∈ (trim text).head?, isBlank c = false := by
      intro c hc
      apply head_trimStart text c
      rw [hend, List.head?_append]
      exact Option.mem_def.2 (Option.or_eq_some_iff.2 (.inl hc))
    have htrims := TrimsTo.surround hbefore hafter hhead (last_trimEnd _)
    rwa [← htext] at htrims
  · intro h
    cases h with
    | @surround before _ after hbefore hafter hhead hlast =>
      rw [trim, List.append_assoc, trimStart_append hbefore]
      cases core with
      | nil =>
        have hnone : trimStart ([] ++ after) = [] := List.dropWhile_eq_nil_iff.2 hafter
        rw [hnone]
        rfl
      | cons c rest =>
        have hstart : trimStart (c :: rest ++ after) = c :: rest ++ after := trimStart_of_head hhead
        rw [hstart, trimEnd_append hafter, trimEnd_of_last hlast]

/-- More blanks around a text change nothing about what is between them. -/
theorem TrimsTo.append {before text after core : List Char} (hbefore : ∀ c ∈ before, isBlank c)
    (hafter : ∀ c ∈ after, isBlank c) (h : TrimsTo text core) :
    TrimsTo (before ++ text ++ after) core := by
  cases h with
  | @surround front _ back hfront hback hhead hlast =>
    have htrims := surround (List.forall_mem_append.2 ⟨hbefore, hfront⟩)
      (List.forall_mem_append.2 ⟨hback, hafter⟩) hhead hlast
    simpa only [List.append_assoc] using htrims

theorem trim_append_cons {c : Char} (hc : isBlank c = false) (front back : List Char) :
    trim (front ++ c :: back) = trimStart front ++ c :: trimEnd back := by
  rw [trim, trimStart_append_cons hc, trimEnd_append_cons hc]

/-! ## The case of letters -/

/-- Only letters below 128 have another case. What does not see the case of those does not see the
case of any character. -/
theorem apply_toLower {β : Type} {f : Char → β}
    (h : ∀ n < 128, f (Char.ofNat n).toLower = f (Char.ofNat n)) (c : Char) :
    f c.toLower = f c := by
  by_cases hc : c.toNat < 128
  · have hcase := h c.toNat hc
    rwa [c.ofNat_toNat] at hcase
  · have hletter : ¬ (c.val ≥ 'A'.val ∧ c.val ≤ 'Z'.val) := by
      rintro ⟨-, hle⟩
      exact hc (Nat.lt_of_le_of_lt (UInt32.le_iff_toNat_le.1 hle) (by decide))
    have hsame : c.toLower = c := dif_neg hletter
    rw [hsame]

@[simp] theorem isBlank_toLower (c : Char) : isBlank c.toLower = isBlank c :=
  apply_toLower (f := isBlank) (by decide) c

theorem trimStart_map_toLower (text : List Char) :
    trimStart (text.map Char.toLower) = (trimStart text).map Char.toLower := by
  have hblank : isBlank ∘ Char.toLower = isBlank := funext isBlank_toLower
  rw [trimStart, List.dropWhile_map, hblank, trimStart]

theorem trim_map_toLower (text : List Char) :
    trim (text.map Char.toLower) = (trim text).map Char.toLower := by
  rw [trim, trimEnd, trimStart_map_toLower, ← List.map_reverse, trimStart_map_toLower,
    ← List.map_reverse, trim, trimEnd]

end GreetingCheck.Text
