import GreetingCheck.Json.Reading
import GreetingCheck.Proofs.Json.Decoder
import GreetingCheck.Proofs.Json.Scan

/-!
# Values are read from their tokens

The tokens of a value that is nested no deeper than the limit lead from where a value has to come
to where it is complete (`foldlM_tokens`). Conversely every state knows the tokens that led to it
(`consumed_step`) and keeps to the limit (`fits_step`), by cases on the single steps (`Step`), so
that a value which is complete was read from its own tokens. Hence the value that a text spells is
the only one (`eq_of_spelledBy`).
-/

namespace GreetingCheck.Json

/-! ## The depth of a value -/

mutual

/-- How many arrays and objects lie inside each other in a value. -/
def depth : Json → Nat
  | .array items => itemsDepth items + 1
  | .object entries => entriesDepth entries + 1
  | _ => 0

/-- The greatest depth of the items of an array. -/
def itemsDepth : List Json → Nat
  | [] => 0
  | v :: rest => max v.depth (itemsDepth rest)

/-- The greatest depth of the values of an object. -/
def entriesDepth : List (String × Json) → Nat
  | [] => 0
  | (_, v) :: rest => max v.depth (entriesDepth rest)

end

theorem itemsDepth_le_iff {items : List Json} {n : Nat} :
    itemsDepth items ≤ n ↔ ∀ v ∈ items, v.depth ≤ n := by
  induction items with
  | nil => simp [itemsDepth]
  | cons v rest ih => rw [itemsDepth, Nat.max_le, ih, List.forall_mem_cons]

theorem entriesDepth_le_iff {entries : List (String × Json)} {n : Nat} :
    entriesDepth entries ≤ n ↔ ∀ e ∈ entries, e.2.depth ≤ n := by
  induction entries with
  | nil => simp [entriesDepth]
  | cons e rest ih => rw [entriesDepth, Nat.max_le, ih, List.forall_mem_cons]

theorem depth_array_le_iff {items : List Json} {n : Nat} :
    (Json.array items).depth ≤ n + 1 ↔ ∀ v ∈ items, v.depth ≤ n := by
  rw [depth, Nat.add_le_add_iff_right, itemsDepth_le_iff]

theorem depth_object_le_iff {entries : List (String × Json)} {n : Nat} :
    (Json.object entries).depth ≤ n + 1 ↔ ∀ e ∈ entries, e.2.depth ≤ n := by
  rw [depth, Nat.add_le_add_iff_right, entriesDepth_le_iff]

/-! ## Tokens of items and entries -/

/-- The tokens of items that are each followed by a comma. -/
def leadingItems (before : List Json) : List Token := before.flatMap fun v => v.tokens ++ [.comma]

/-- The tokens of an entry. -/
def tokensOfEntry (e : String × Json) : List Token := .text e.1 :: .colon :: e.2.tokens

/-- The tokens of entries that are each followed by a comma. -/
def leadingEntries (before : List (String × Json)) : List Token :=
  before.flatMap fun e => tokensOfEntry e ++ [.comma]

theorem itemTokens_concat (before : List Json) (v : Json) :
    itemTokens (before ++ [v]) = leadingItems before ++ v.tokens := by
  induction before with
  | nil => rfl
  | cons w rest ih =>
    have hcons : itemTokens (w :: (rest ++ [v])) = w.tokens ++ .comma :: itemTokens (rest ++ [v]) := by
      cases rest <;> rfl
    rw [List.cons_append, hcons, ih]
    simp [leadingItems]

theorem entryTokens_concat (before : List (String × Json)) (e : String × Json) :
    entryTokens (before ++ [e]) = leadingEntries before ++ tokensOfEntry e := by
  induction before with
  | nil => rfl
  | cons f rest ih =>
    have hcons : entryTokens (f :: (rest ++ [e])) =
        tokensOfEntry f ++ .comma :: entryTokens (rest ++ [e]) := by
      cases rest <;> rfl
    rw [List.cons_append, hcons, ih]
    simp [leadingEntries]

/-- A value starts with a token, and not with a closing bracket. -/
theorem exists_cons_tokens (v : Json) : ∃ t rest, v.tokens = t :: rest ∧ t ≠ .closeArray := by
  cases v <;> exact ⟨_, _, rfl, by simp⟩

theorem exists_cons_itemTokens (v : Json) (rest : List Json) :
    ∃ t ts, itemTokens (v :: rest) = t :: ts ∧ t ≠ .closeArray := by
  obtain ⟨t, ts, hts, ht⟩ := exists_cons_tokens v
  cases rest with
  | nil => exact ⟨t, ts, hts, ht⟩
  | cons w rest => exact ⟨t, _, by rw [itemTokens, hts, List.cons_append], ht⟩

/-- Entries start with the key of the first of them. -/
theorem exists_cons_entryTokens (e : String × Json) (rest : List (String × Json)) :
    ∃ ts, entryTokens (e :: rest) = .text e.1 :: ts := by
  cases rest <;> exact ⟨_, rfl⟩

namespace Reading

variable {limit : Nat}

/-! ## The tokens of a value lead to it -/

/-- Behind an opening bracket an item is read as any value is. -/
private theorem step_opened {t : Token} (ht : t ≠ .closeArray) (outer : List Frame) :
    step limit (.opened outer) t = step limit (.value (.array [] :: outer)) t := by
  cases t <;> first | rfl | exact absurd rfl ht

/-- The remaining items of an array, up to its end. -/
private theorem foldlM_itemTokens {v : Json} {rest before : List Json} {outer : List Frame}
    (h : ∀ w ∈ v :: rest, ∀ inner, w.tokens.foldlM (step limit) (.value (inner :: outer)) =
      .ok (.closed w inner outer)) :
    (itemTokens (v :: rest) ++ [Token.closeArray]).foldlM (step limit)
        (.value (.array before :: outer)) =
      .ok (settle (.array (before ++ v :: rest)) outer) := by
  have hv := h v List.mem_cons_self (.array before)
  induction rest generalizing v before with
  | nil =>
    rw [itemTokens, foldlM_append_of_run hv]
    rfl
  | cons w rest ih =>
    have htail := fun u hu => h u (List.mem_cons_of_mem v hu)
    -- behind the comma there is one more item in front of the next one
    rw [itemTokens, List.append_assoc, foldlM_append_of_run hv, List.append_cons before v]
    exact ih htail (htail w List.mem_cons_self _)

/-- The remaining entries of an object, up to its end. -/
private theorem foldlM_entryTokens {e : String × Json} {rest before : List (String × Json)}
    {outer : List Frame}
    (h : ∀ f ∈ e :: rest, ∀ inner, f.2.tokens.foldlM (step limit) (.value (inner :: outer)) =
      .ok (.closed f.2 inner outer)) :
    (entryTokens (e :: rest) ++ [Token.closeObject]).foldlM (step limit) (.nextKey before outer) =
      .ok (settle (.object (before ++ e :: rest)) outer) := by
  have he := h e List.mem_cons_self (.object before e.1)
  induction rest generalizing e before with
  | nil =>
    rw [entryTokens]
    exact foldlM_append_of_run he _
  | cons f rest ih =>
    have htail := fun g hg => h g (List.mem_cons_of_mem e hg)
    rw [entryTokens, List.append_assoc, List.append_cons before e]
    exact (foldlM_append_of_run he _).trans (ih htail (htail f List.mem_cons_self _))

/-- The tokens of a value lead from where a value has to come to where it is complete. -/
theorem foldlM_tokens (v : Json) {outer : List Frame} (h : outer.length + v.depth ≤ limit) :
    v.tokens.foldlM (step limit) (.value outer) = .ok (settle v outer) := by
  match v with
  | .null | .boolean b | .number n | .text s => rfl
  | .array items =>
    rw [depth] at h
    have hopen : step limit (.value outer) .openArray = .ok (.opened outer) := if_pos (by omega)
    have hitem : ∀ w ∈ items, ∀ inner, w.tokens.foldlM (step limit) (.value (inner :: outer)) =
        .ok (.closed w inner outer) := by
      intro w hw inner
      have hdepth := itemsDepth_le_iff.1 (Nat.le_refl _) w hw
      have hsize := List.sizeOf_lt_of_mem hw
      exact foldlM_tokens w (by rw [List.length_cons]; omega)
    rw [tokens, List.cons_append, foldlM_cons_of_step hopen]
    cases items with
    | nil => rfl
    | cons v rest =>
      have hitems : (itemTokens (v :: rest) ++ [Token.closeArray]).foldlM (step limit)
          (.value (.array [] :: outer)) = .ok (settle (.array (v :: rest)) outer) :=
        foldlM_itemTokens hitem
      -- an item starts with no closing bracket, so the opened array is not taken for an empty one
      obtain ⟨t, ts, hts, ht⟩ := exists_cons_itemTokens v rest
      rw [hts, List.cons_append, List.foldlM_cons, ← step_opened ht, ← List.foldlM_cons] at hitems
      rw [hts]
      exact hitems
  | .object entries =>
    rw [depth] at h
    have hopen : step limit (.value outer) .openObject = .ok (.firstKey outer) := if_pos (by omega)
    have hentry : ∀ f ∈ entries, ∀ inner,
        f.2.tokens.foldlM (step limit) (.value (inner :: outer)) =
          .ok (.closed f.2 inner outer) := by
      rintro ⟨key, w⟩ hf inner
      have hdepth : w.depth ≤ _ := entriesDepth_le_iff.1 (Nat.le_refl _) (key, w) hf
      have hsize : sizeOf w < sizeOf entries := by
        have hentry := List.sizeOf_lt_of_mem hf
        rw [Prod.mk.sizeOf_spec] at hentry
        omega
      exact foldlM_tokens w (by rw [List.length_cons]; omega)
    rw [tokens, List.cons_append, foldlM_cons_of_step hopen]
    cases entries with
    | nil => rfl
    | cons e rest =>
      have hentries : (entryTokens (e :: rest) ++ [Token.closeObject]).foldlM (step limit)
          (.nextKey [] outer) = .ok (settle (.object (e :: rest)) outer) :=
        foldlM_entryTokens hentry
      -- the first key is read alike in the freshly opened object and behind a comma
      obtain ⟨ts, hts⟩ := exists_cons_entryTokens e rest
      rw [hts] at hentries ⊢
      exact hentries
termination_by sizeOf v

/-! ## Single steps -/

/-- The steps of a reading, by what is read. -/
inductive Step (limit : Nat) : Reading → Token → Reading → Prop
  | value {outer : List Frame} {t : Token} {r : Reading} (h : enter limit outer t = .ok r) :
      Step limit (.value outer) t r
  | emptyArray {outer : List Frame} :
      Step limit (.opened outer) .closeArray (settle (.array []) outer)
  | firstItem {outer : List Frame} {t : Token} {r : Reading}
      (h : enter limit (.array [] :: outer) t = .ok r) : Step limit (.opened outer) t r
  | emptyObject {outer : List Frame} :
      Step limit (.firstKey outer) .closeObject (settle (.object []) outer)
  | firstKey {outer : List Frame} {key : String} :
      Step limit (.firstKey outer) (.text key) (.colon [] key outer)
  | nextKey {before : List (String × Json)} {outer : List Frame} {key : String} :
      Step limit (.nextKey before outer) (.text key) (.colon before key outer)
  | colon {before : List (String × Json)} {key : String} {outer : List Frame} :
      Step limit (.colon before key outer) .colon (.value (.object before key :: outer))
  | nextItem {v : Json} {before : List Json} {outer : List Frame} :
      Step limit (.closed v (.array before) outer) .comma (.value (.array (before ++ [v]) :: outer))
  | endArray {v : Json} {before : List Json} {outer : List Frame} :
      Step limit (.closed v (.array before) outer) .closeArray
        (settle (.array (before ++ [v])) outer)
  | nextEntry {v : Json} {before : List (String × Json)} {key : String} {outer : List Frame} :
      Step limit (.closed v (.object before key) outer) .comma
        (.nextKey (before ++ [(key, v)]) outer)
  | endObject {v : Json} {before : List (String × Json)} {key : String} {outer : List Frame} :
      Step limit (.closed v (.object before key) outer) .closeObject
        (settle (.object (before ++ [(key, v)])) outer)

/-- A token that is taken makes one of the steps. -/
theorem Step.of_eq_ok {r r' : Reading} {t : Token} (h : r.step limit t = .ok r') :
    Step limit r t r' := by
  cases r with
  | value outer => exact .value h
  | opened outer =>
    by_cases ht : t = .closeArray
    · subst ht
      cases h
      exact .emptyArray
    · rw [step_opened ht] at h
      exact .firstItem h
  | firstKey outer =>
    cases t with
    | closeObject =>
      cases h
      exact .emptyObject
    | text key =>
      cases h
      exact .firstKey
    | _ => cases h
  | nextKey before outer =>
    cases t with
    | text key =>
      cases h
      exact .nextKey
    | _ => cases h
  | colon before key outer =>
    cases t with
    | colon =>
      cases h
      exact .colon
    | _ => cases h
  | closed v inner outer =>
    cases inner with
    | array before =>
      cases t with
      | comma =>
        cases h
        exact .nextItem
      | closeArray =>
        cases h
        exact .endArray
      | _ => cases h
    | object before key =>
      cases t with
      | comma =>
        cases h
        exact .nextEntry
      | closeObject =>
        cases h
        exact .endObject
      | _ => cases h
  | done v => cases t <;> cases h

/-! ## A state knows its tokens -/

/-- The tokens that led into an open array or object, up to where its next item or value starts. -/
def consumedBy : Frame → List Token
  | .array before => .openArray :: leadingItems before
  | .object before key => .openObject :: leadingEntries before ++ [.text key, .colon]

/-- The tokens that led into all of the open arrays and objects. -/
def consumedUpTo (outer : List Frame) : List Token := outer.reverse.flatMap consumedBy

/-- The tokens that led to a state. -/
def consumed : Reading → List Token
  | .value outer => consumedUpTo outer
  | .opened outer => consumedUpTo outer ++ [.openArray]
  | .firstKey outer => consumedUpTo outer ++ [.openObject]
  | .nextKey before outer => consumedUpTo outer ++ .openObject :: leadingEntries before
  | .colon before key outer =>
    consumedUpTo outer ++ .openObject :: leadingEntries before ++ [.text key]
  | .closed v inner outer => consumedUpTo (inner :: outer) ++ v.tokens
  | .done v => v.tokens

theorem consumedUpTo_cons (inner : Frame) (outer : List Frame) :
    consumedUpTo (inner :: outer) = consumedUpTo outer ++ consumedBy inner := by
  simp [consumedUpTo]

theorem consumed_settle (v : Json) (outer : List Frame) :
    (settle v outer).consumed = consumedUpTo outer ++ v.tokens := by
  cases outer <;> rfl

private theorem consumed_enter {outer : List Frame} {t : Token} {r : Reading}
    (h : enter limit outer t = .ok r) : r.consumed = consumedUpTo outer ++ [t] := by
  cases t with
  | openArray | openObject =>
    rw [enter] at h
    split at h
    · cases h
      rfl
    · cases h
  | null | boolean | number | text =>
    cases h
    exact consumed_settle _ _
  | _ => cases h

/-- Every step adds its token to the tokens that led to the state. -/
theorem consumed_step {r r' : Reading} {t : Token} (h : r.step limit t = .ok r') :
    r'.consumed = r.consumed ++ [t] := by
  cases Step.of_eq_ok h with
  | value henter => exact consumed_enter henter
  | firstItem henter =>
    rw [consumed_enter henter, consumedUpTo_cons]
    rfl
  | emptyArray | emptyObject =>
    rw [consumed_settle]
    simp [consumed, tokens, itemTokens, entryTokens]
  | nextKey => rfl
  -- the closing bracket turns the tokens of the open array into those of a value
  | endArray =>
    rw [consumed_settle, consumed, consumedUpTo_cons, tokens, itemTokens_concat]
    simp [consumedBy]
  | endObject =>
    rw [consumed_settle, consumed, consumedUpTo_cons, tokens, entryTokens_concat]
    simp [consumedBy, tokensOfEntry]
  | firstKey | colon | nextItem | nextEntry =>
    simp [consumed, consumedUpTo_cons, consumedBy, leadingItems, leadingEntries, tokensOfEntry]

/-! ## A state keeps to the limit -/

/-- The values that an open array or object holds already. -/
def heldBy : Frame → List Json
  | .array before => before
  | .object before _ => before.map Prod.snd

/-- The open arrays and objects are no more than the limit, and every value that one of them holds
lies within the limit at its place. -/
def FramesFit (limit : Nat) : List Frame → Prop
  | [] => True
  | inner :: outer =>
    outer.length < limit ∧ (∀ v ∈ heldBy inner, outer.length + 1 + v.depth ≤ limit) ∧
      FramesFit limit outer

/-- Nothing that has been read lies beyond the limit. -/
def Fits (limit : Nat) : Reading → Prop
  | .value outer => FramesFit limit outer
  | .opened outer | .firstKey outer => outer.length < limit ∧ FramesFit limit outer
  | .nextKey before outer => FramesFit limit (.array (before.map Prod.snd) :: outer)
  | .colon before key outer => FramesFit limit (.object before key :: outer)
  | .closed v inner outer =>
    FramesFit limit (inner :: outer) ∧ outer.length + 1 + v.depth ≤ limit
  | .done v => v.depth ≤ limit

theorem fits_settle {v : Json} {outer : List Frame} (houter : FramesFit limit outer)
    (hv : outer.length + v.depth ≤ limit) : (settle v outer).Fits limit := by
  cases outer with
  | nil => simpa [settle, Fits] using hv
  | cons inner outer => exact ⟨houter, hv⟩

private theorem fits_enter {outer : List Frame} {t : Token} {r : Reading}
    (houter : FramesFit limit outer) (hlength : outer.length ≤ limit)
    (h : enter limit outer t = .ok r) : r.Fits limit := by
  cases t with
  | openArray | openObject =>
    rw [enter] at h
    split at h
    · next hlt =>
      cases h
      exact ⟨hlt, houter⟩
    · cases h
  | null | boolean | number | text =>
    cases h
    exact fits_settle houter hlength
  | _ => cases h

private theorem length_le_of_framesFit {outer : List Frame} (h : FramesFit limit outer) :
    outer.length ≤ limit := by
  cases outer with
  | nil => exact Nat.zero_le _
  | cons inner outer => exact h.1

/-- An array lies within the limit if what it holds lies within it one level deeper. -/
private theorem fits_array {items : List Json} {n : Nat} (hn : n < limit)
    (h : ∀ v ∈ items, n + 1 + v.depth ≤ limit) : n + (Json.array items).depth ≤ limit := by
  have hdepth : (Json.array items).depth ≤ limit - (n + 1) + 1 := by
    rw [depth_array_le_iff]
    intro v hv
    have := h v hv
    omega
  omega

private theorem fits_object {entries : List (String × Json)} {n : Nat} (hn : n < limit)
    (h : ∀ v ∈ entries.map Prod.snd, n + 1 + v.depth ≤ limit) :
    n + (Json.object entries).depth ≤ limit := by
  have hdepth : (Json.object entries).depth ≤ limit - (n + 1) + 1 := by
    rw [depth_object_le_iff]
    intro e he
    have := h e.2 (List.mem_map_of_mem he)
    omega
  omega

/-- What fits goes on to fit. -/
theorem fits_step {r r' : Reading} {t : Token} (hr : r.Fits limit) (h : r.step limit t = .ok r') :
    r'.Fits limit := by
  -- one more value in an open array or object
  have hconcat {n : Nat} {values : List Json} {v : Json}
      (hvalues : ∀ w ∈ values, n + 1 + w.depth ≤ limit) (hv : n + 1 + v.depth ≤ limit) :
      ∀ w ∈ values ++ [v], n + 1 + w.depth ≤ limit :=
    List.forall_mem_append.2 ⟨hvalues, by simpa using hv⟩
  cases Step.of_eq_ok h with
  | value henter => exact fits_enter hr (length_le_of_framesFit hr) henter
  | @firstItem outer _ _ henter =>
    have hinner : FramesFit limit (.array [] :: outer) := ⟨hr.1, by simp [heldBy], hr.2⟩
    exact fits_enter hinner hr.1 henter
  | emptyArray => exact fits_settle hr.2 (fits_array hr.1 (by simp))
  | emptyObject => exact fits_settle hr.2 (fits_object hr.1 (by simp))
  | firstKey => exact ⟨hr.1, by simp [heldBy], hr.2⟩
  | nextKey | colon => exact hr
  | nextItem =>
    obtain ⟨⟨hlength, hbefore, houter⟩, hv⟩ := hr
    exact ⟨hlength, hconcat hbefore hv, houter⟩
  | endArray =>
    obtain ⟨⟨hlength, hbefore, houter⟩, hv⟩ := hr
    exact fits_settle houter (fits_array hlength (hconcat hbefore hv))
  | nextEntry =>
    obtain ⟨⟨hlength, hbefore, houter⟩, hv⟩ := hr
    refine ⟨hlength, ?_, houter⟩
    rw [heldBy, List.map_append]
    exact hconcat hbefore hv
  | endObject =>
    obtain ⟨⟨hlength, hbefore, houter⟩, hv⟩ := hr
    refine fits_settle houter (fits_object hlength ?_)
    rw [List.map_append]
    exact hconcat hbefore hv

end Reading

/-! ## Tokens and texts determine a value -/

theorem tokens_injective {v w : Json} (h : v.tokens = w.tokens) : v = w := by
  -- both values are what their common tokens lead to, under a limit that is wide enough
  have hrun (u : Json) (hu : u.depth ≤ max v.depth w.depth) :
      u.tokens.foldlM (Reading.step (max v.depth w.depth)) (.value []) = .ok (.done u) :=
    Reading.foldlM_tokens u (by simpa using hu)
  have hv := hrun v (Nat.le_max_left _ _)
  have hw := hrun w (Nat.le_max_right _ _)
  rw [h, hw] at hv
  cases hv
  rfl

/-- No text spells two values, if the readers take the numbers of one of them. -/
theorem eq_of_spelledBy {v w : Json} {text : String} (hv : v.SpelledBy text) (hrange : v.InRange)
    (hw : w.SpelledBy text) : w = v :=
  tokens_injective (tokens_eq_of_scan hw (scan_of_spelledBy hv hrange))

end GreetingCheck.Json
