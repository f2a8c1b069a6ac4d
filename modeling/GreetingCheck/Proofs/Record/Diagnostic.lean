import GreetingCheck.Proofs.Json.Compact
import GreetingCheck.Proofs.Json.Reading
import GreetingCheck.Proofs.Record.Representation

/-!
# A diagnostic is decoded from what represents it

The reader of diagnostics accepts exactly the spellings of the values that represent a diagnostic
and are not nested too deep (`decode_eq_ok_iff`). In one direction every state fits the tokens that
led to it (`LedBy`, kept by every step); in the other the tokens of such a value are followed
entry by entry.
-/

namespace GreetingCheck.Diagnostic

open Json

/-! ## Entries -/

/-- An entry as it stands in the object. -/
def Entry.toPair : Entry → String × Json
  | .kind k => (kindKey, .text k.name)
  | .other key v => (key, v)

/-- Entries as they stand in the object. -/
def pairs (entries : List Entry) : List (String × Json) := entries.map Entry.toPair

private theorem pairs_concat (before : List Entry) (e : Entry) :
    pairs (before ++ [e]) = pairs before ++ [e.toPair] := by
  rw [pairs, List.map_append]
  rfl

private theorem kind?_concat (before : List Entry) (e : Entry) :
    kind? (before ++ [e]) = (kind? before).or (kind? [e]) := by
  rw [kind?, List.findSome?_append]
  rfl

/-- Leaving out the entries of one name changes nothing about those of another. -/
private theorem filter_foreign {entries : List (String × Json)} {name : String}
    (hname : name ≠ kindKey) :
    (entries.filter (·.1 ≠ kindKey)).filter (·.1 = name) = entries.filter (·.1 = name) := by
  rw [List.filter_filter]
  apply List.filter_congr
  intro e _
  by_cases he : e.1 = name
  · simp [he, hname]
  · simp [he]

/-- What holds of the entries that have been read. -/
structure Proper (entries : List Entry) : Prop where
  /-- The key of a kind stands in front of a kind only, and of one kind at most. -/
  tagged : (pairs entries).filter (·.1 = kindKey) =
    (kind? entries).toList.map fun k => (kindKey, .text k.name)
  others : (pairs entries).filter (·.1 ≠ kindKey) = others entries
  shallow : ∀ e ∈ pairs entries, e.2.depth ≤ nestingLimit

namespace Proper

variable {before : List Entry}

theorem nil : Proper [] := ⟨rfl, rfl, by simp [pairs]⟩

private theorem shallow_concat (h : Proper before) {e : Entry} (he : e.toPair.2.depth ≤ nestingLimit) :
    ∀ f ∈ pairs (before ++ [e]), f.2.depth ≤ nestingLimit := by
  rw [pairs_concat]
  exact List.forall_mem_append.2 ⟨h.shallow, by simpa using he⟩

theorem concat_kind (h : Proper before) (hnone : kind? before = none) (k : Kind) :
    Proper (before ++ [.kind k]) where
  tagged := by
    rw [kind?_concat, pairs_concat, List.filter_append, h.tagged, hnone]
    simp [Entry.toPair, kind?]
  others := by
    rw [pairs_concat, List.filter_append, h.others]
    simp [Diagnostic.others, Entry.toPair]
  shallow := h.shallow_concat (Nat.zero_le _)

theorem concat_other (h : Proper before) {key : String} (hkey : key ≠ kindKey) {v : Json}
    (hv : v.depth ≤ nestingLimit) : Proper (before ++ [.other key v]) where
  tagged := by
    rw [kind?_concat, pairs_concat, List.filter_append, h.tagged]
    simp [Entry.toPair, kind?, hkey]
  others := by
    rw [pairs_concat, List.filter_append, h.others]
    simp [Diagnostic.others, Entry.toPair, hkey]
  shallow := h.shallow_concat hv

/-- A name that is not the key of the kind stands among the entries as often as among those that
are no kind. -/
theorem filter_others (h : Proper before) {name : String} (hname : name ≠ kindKey) :
    (Diagnostic.others before).filter (·.1 = name) = (pairs before).filter (·.1 = name) := by
  rw [← h.others, filter_foreign hname]

end Proper

/-- Proper entries whose kind and field make up a diagnostic represent it. -/
theorem representedBy_of_entries {entries : List Entry} {k : Kind} {d : Diagnostic}
    (h : Proper entries) (hkind : kind? entries = some k)
    (hd : ofEntries k (others entries) = .ok d) : d.RepresentedBy (.object (pairs entries)) := by
  obtain ⟨v, hfield, hv⟩ := ofEntries_eq_ok_iff.1 hd
  obtain ⟨rfl, hdenoted⟩ := ofField_eq_ok_iff.1 hv
  rw [h.filter_others d.kind.fieldName_ne] at hfield
  refine .object ?_ hfield hdenoted
  rw [h.tagged, hkind]
  rfl

/-! ## What led to a state -/

/-- The tokens of the object up to where a further key may come. -/
def objectUpTo (before : List Entry) : List Token := .openObject :: leadingEntries (pairs before)

/-- The tokens of the array up to where a further item may come. -/
def arrayUpTo (k : Kind) (before : List Json) : List Token :=
  .openArray :: leadingItems (.text k.name :: before)

namespace Reading

/-- What a state says of the tokens that led to it. -/
def LedBy : Reading → List Token → Prop
  | .start, taken => taken = []
  | .firstKey, taken => taken = [.openObject]
  | .nextKey before, taken => Proper before ∧ taken = objectUpTo before
  | .keyed before key, taken =>
    Proper before ∧ (key = kindKey → kind? before = none) ∧
      taken = objectUpTo before ++ [.text key]
  | .kindValue before, taken =>
    Proper before ∧ kind? before = none ∧ taken = objectUpTo before ++ [.text kindKey, .colon]
  | .value before key inner, taken =>
    Proper before ∧ key ≠ kindKey ∧ inner.Fits nestingLimit ∧
      taken = objectUpTo before ++ [.text key, .colon] ++ inner.consumed
  | .closed before, taken =>
    Proper before ∧ taken ++ [.closeObject] = (Json.object (pairs before)).tokens ∧
      taken ++ [.comma] = objectUpTo before
  | .firstItem, taken => taken = [.openArray]
  | .closedItem k before, taken =>
    (∀ v ∈ before, v.depth ≤ nestingLimit) ∧
      taken ++ [.closeArray] = (Json.array (.text k.name :: before)).tokens ∧
      taken ++ [.comma] = arrayUpTo k before
  | .item k before inner, taken =>
    (∀ v ∈ before, v.depth ≤ nestingLimit) ∧ inner.Fits nestingLimit ∧
      taken = arrayUpTo k before ++ inner.consumed
  | .done d, taken => ∃ v : Json, taken = v.tokens ∧ v.depth ≤ nestingLimit + 1 ∧ d.RepresentedBy v

/-- An entry is complete when its value is. -/
private theorem ledBy_closed {before : List Entry} {e : Entry} (h : Proper (before ++ [e])) :
    LedBy (.closed (before ++ [e]))
      (objectUpTo before ++ [.text e.toPair.1, .colon] ++ e.toPair.2.tokens) := by
  refine ⟨h, ?_, ?_⟩
  · rw [pairs_concat, tokens, entryTokens_concat]
    simp [objectUpTo, tokensOfEntry]
  · simp [objectUpTo, leadingEntries, tokensOfEntry, pairs_concat]

private theorem ledBy_closedItem {k : Kind} {before : List Json} {v : Json}
    (h : ∀ w ∈ before ++ [v], w.depth ≤ nestingLimit) :
    LedBy (.closedItem k (before ++ [v])) (arrayUpTo k before ++ v.tokens) := by
  refine ⟨h, ?_, ?_⟩
  · rw [tokens, ← List.cons_append, itemTokens_concat]
    simp [arrayUpTo]
  · simp [arrayUpTo, leadingItems]

/-! ## Every step keeps what is said of the tokens -/

theorem readKind_eq_ok_iff {next : Kind → Reading} {t : Token} {s : Reading} :
    readKind next t = .ok s ↔ ∃ k : Kind, t = .text k.name ∧ s = next k := by
  cases t with
  | text name =>
    cases hname : Kind.ofName? name with
    | none =>
      have hother : ∀ k : Kind, name ≠ k.name := by
        intro k hk
        rw [hk, Kind.ofName?_name] at hname
        cases hname
      simp [readKind, hname, hother]
    | some k =>
      obtain rfl := Kind.ofName?_eq_some_iff.1 hname
      constructor
      · intro h
        rw [readKind, Kind.ofName?_name] at h
        cases h
        exact ⟨k, rfl, rfl⟩
      · intro h
        rcases h with ⟨k', hk, rfl⟩
        rw [hk, readKind, Kind.ofName?_name]
  | _ => simp [readKind]

theorem readKey_eq_ok_iff {before : List Entry} {t : Token} {s : Reading} :
    readKey before t = .ok s ↔
      ∃ key, t = .text key ∧ (key = kindKey → kind? before = none) ∧ s = .keyed before key := by
  cases t with
  | text key =>
    constructor
    · intro h
      rw [readKey] at h
      split at h
      · cases h
      · next hfree =>
        cases h
        refine ⟨key, rfl, ?_, rfl⟩
        intro hkey
        simpa [hkey] using hfree
    · intro h
      rcases h with ⟨_, hkey, hfree, rfl⟩
      cases hkey
      rw [readKey, if_neg]
      intro h
      rcases h with ⟨hkey, hsome⟩
      rw [hfree hkey] at hsome
      cases hsome
  | _ => simp [readKey]

theorem conclude_eq_ok_iff {x : Except Mismatch Diagnostic} {s : Reading} :
    conclude x = .ok s ↔ ∃ d, x = .ok d ∧ s = .done d := by
  cases x <;> simp [conclude, eq_comm]

theorem endObject_eq_ok_iff {entries : List Entry} {s : Reading} :
    endObject entries = .ok s ↔
      ∃ k d, kind? entries = some k ∧ ofEntries k (others entries) = .ok d ∧ s = .done d := by
  rw [endObject]
  cases kind? entries with
  | none => simp
  | some k => simp [conclude_eq_ok_iff]

/-- The object ends with a diagnostic that it represents. -/
private theorem ledBy_endObject {before : List Entry} {s : Reading} {taken : List Token}
    (h : Proper before) (htaken : taken = (Json.object (pairs before)).tokens)
    (hstep : endObject before = .ok s) : LedBy s taken := by
  obtain ⟨k, d, hkind, hd, rfl⟩ := endObject_eq_ok_iff.1 hstep
  exact ⟨_, htaken, depth_object_le_iff.2 h.shallow, representedBy_of_entries h hkind hd⟩

private theorem ledBy_readKey {before : List Entry} {t : Token} {s : Reading} (h : Proper before)
    (hstep : readKey before t = .ok s) : LedBy s (objectUpTo before ++ [t]) := by
  obtain ⟨key, rfl, hkey, rfl⟩ := readKey_eq_ok_iff.1 hstep
  exact ⟨h, hkey, rfl⟩

/-- Takes a token into a reading inside of a state: `wrap` is the state around a reading that is not
complete, and `next` the state behind a complete value. -/
def takeInner (wrap : Json.Reading → Reading) (next : Json → Reading) (inner : Json.Reading)
    (t : Token) : Except DecodeError Reading :=
  match inner.step nestingLimit t with
  | .ok (.done v) => .ok (next v)
  | .ok inner => .ok (wrap inner)
  | .error fault => .error (.fault fault)

theorem readValue_eq (before : List Entry) (key : String) :
    readValue before key =
      takeInner (.value before key) fun v => .closed (before ++ [.other key v]) := rfl

theorem readItem_eq (k : Kind) (before : List Json) :
    readItem k before = takeInner (.item k before) fun v => .closedItem k (before ++ [v]) := rfl

/-- Behind a token the value inside is complete or still being read, and it is known what was read
of it. -/
private theorem takeInner_cases {wrap : Json.Reading → Reading} {next : Json → Reading}
    {inner : Json.Reading} {t : Token} {s : Reading} (hfits : inner.Fits nestingLimit)
    (h : takeInner wrap next inner t = .ok s) :
    (∃ v : Json, s = next v ∧ v.depth ≤ nestingLimit ∧ v.tokens = inner.consumed ++ [t]) ∨
      ∃ inner' : Json.Reading, s = wrap inner' ∧ inner'.Fits nestingLimit ∧
        inner'.consumed = inner.consumed ++ [t] := by
  rw [takeInner] at h
  cases hinner : inner.step nestingLimit t with
  | error fault => simp [hinner] at h
  | ok inner' =>
    have hfits' := Json.Reading.fits_step hfits hinner
    have hconsumed := Json.Reading.consumed_step hinner
    rw [hinner] at h
    cases inner' with
    | done v =>
      cases h
      exact .inl ⟨v, rfl, hfits', hconsumed⟩
    | _ =>
      cases h
      exact .inr ⟨_, rfl, hfits', hconsumed⟩

private theorem ledBy_readValue {before : List Entry} {key : String} {inner : Json.Reading}
    {t : Token} {s : Reading} {taken : List Token} (h : LedBy (.value before key inner) taken)
    (hstep : readValue before key inner t = .ok s) : LedBy s (taken ++ [t]) := by
  obtain ⟨hproper, hkey, hfits, rfl⟩ := h
  rw [readValue_eq] at hstep
  rw [List.append_assoc]
  rcases takeInner_cases hfits hstep with ⟨v, rfl, hdepth, hv⟩ | ⟨inner', rfl, hfits', hinner'⟩
  · rw [← hv]
    exact ledBy_closed (hproper.concat_other hkey hdepth)
  · rw [← hinner']
    exact ⟨hproper, hkey, hfits', rfl⟩

private theorem ledBy_readItem {k : Kind} {before : List Json} {inner : Json.Reading} {t : Token}
    {s : Reading} {taken : List Token} (h : LedBy (.item k before inner) taken)
    (hstep : readItem k before inner t = .ok s) : LedBy s (taken ++ [t]) := by
  obtain ⟨hbefore, hfits, rfl⟩ := h
  rw [readItem_eq] at hstep
  rw [List.append_assoc]
  rcases takeInner_cases hfits hstep with ⟨v, rfl, hdepth, hv⟩ | ⟨inner', rfl, hfits', hinner'⟩
  · rw [← hv]
    apply ledBy_closedItem
    exact List.forall_mem_append.2 ⟨hbefore, by simpa using hdepth⟩
  · rw [← hinner']
    exact ⟨hbefore, hfits', rfl⟩

theorem ledBy_step (s s' : Reading) (taken : List Token) (t : Token) (h : LedBy s taken)
    (hstep : s.step t = .ok s') : LedBy s' (taken ++ [t]) := by
  cases s with
  | start =>
    cases t with
    | openObject | openArray =>
      cases hstep
      rw [h]
      rfl
    | _ => cases hstep
  | firstKey =>
    rw [h]
    cases t with
    | closeObject => exact ledBy_endObject Proper.nil rfl hstep
    | _ => exact ledBy_readKey Proper.nil hstep
  | nextKey before =>
    rw [h.2]
    exact ledBy_readKey h.1 hstep
  | keyed before key =>
    obtain ⟨hproper, hkey, rfl⟩ := h
    cases t with
    | colon =>
      by_cases hkind : key = kindKey
      · rw [step, if_pos hkind] at hstep
        cases hstep
        exact ⟨hproper, hkey hkind, by rw [hkind]; simp⟩
      · rw [step, if_neg hkind] at hstep
        cases hstep
        exact ⟨hproper, hkind, trivial, by simp [Json.Reading.consumed, Json.Reading.consumedUpTo]⟩
    | _ => cases hstep
  | kindValue before =>
    obtain ⟨hproper, hnone, rfl⟩ := h
    obtain ⟨k, rfl, rfl⟩ := readKind_eq_ok_iff.1 hstep
    exact ledBy_closed (hproper.concat_kind hnone k)
  | value before key inner => exact ledBy_readValue h hstep
  | closed before =>
    cases t with
    | comma =>
      cases hstep
      exact ⟨h.1, h.2.2⟩
    -- only here and at the end of the array does a step lead to a diagnostic
    | closeObject => exact ledBy_endObject h.1 h.2.1 hstep
    | _ => cases hstep
  | firstItem =>
    rw [h]
    cases t with
    | text name =>
      have hkind : readKind (.closedItem · []) (.text name) = .ok s' := hstep
      obtain ⟨k, hk, rfl⟩ := readKind_eq_ok_iff.1 hkind
      rw [hk]
      exact ⟨by simp, by simp [tokens, itemTokens], by simp [arrayUpTo, leadingItems, tokens]⟩
    | _ => cases hstep
  | closedItem k before =>
    cases t with
    | comma =>
      cases hstep
      exact ⟨h.1, trivial, by rw [h.2.2]; simp [Json.Reading.consumed, Json.Reading.consumedUpTo]⟩
    | closeArray =>
      obtain ⟨d, hd, rfl⟩ := conclude_eq_ok_iff.1 hstep
      obtain ⟨v, rfl, hv⟩ := ofItems_eq_ok_iff.1 hd
      obtain ⟨rfl, hdenoted⟩ := ofField_eq_ok_iff.1 hv
      exact ⟨_, h.2.1, depth_array_le_iff.2 (List.forall_mem_cons.2 ⟨Nat.zero_le _, h.1⟩),
        .array hdenoted⟩
    | _ => cases hstep
  | item k before inner => exact ledBy_readItem h hstep
  | done d => cases t <;> cases hstep

end Reading

theorem decoder_halts : decoder.Halts := by
  intro s d hs t
  cases s with
  | done => rfl
  | _ => cases hs

/-- What a diagnostic is decoded from represents it, and its numbers are in range. -/
theorem representedBy_of_decode {text : String} {d : Diagnostic} (h : decode text = .ok d) :
    ∃ v : Json, v.SpelledBy text ∧ v.InRange ∧ v.depth ≤ nestingLimit + 1 ∧
      d.RepresentedBy v := by
  have hstart : Reading.LedBy .start [] := rfl
  obtain ⟨tokens, s, hscan, hled, hresult⟩ :=
    Decoder.exists_of_decode decoder_halts hstart Reading.ledBy_step h
  cases s with
  | done =>
    cases hresult
    obtain ⟨v, rfl, hdepth, hv⟩ := hled
    have hrange : v.InRange := fun n hn => overflows_of_mem_scan (by rwa [hscan])
    exact ⟨v, spells_of_scan hscan, hrange, hdepth, hv⟩
  | _ => cases hresult

/-! ## What represents a diagnostic is read as it -/

/-- An entry as the reader of a diagnostic of a given kind keeps it. -/
def Entry.ofPair (k : Kind) (e : String × Json) : Entry :=
  if e.1 = kindKey then .kind k else .other e.1 e.2

private theorem kind?_map_ofPair (k : Kind) (entries : List (String × Json)) :
    kind? (entries.map (Entry.ofPair k)) =
      if entries.filter (·.1 = kindKey) = [] then none else some k := by
  induction entries with
  | nil => rfl
  | cons e rest ih =>
    rw [kind?] at ih ⊢
    by_cases he : e.1 = kindKey
    · simp [Entry.ofPair, he]
    · rw [List.map_cons, List.findSome?_cons, ih, List.filter_cons_of_neg (by simpa using he)]
      simp [Entry.ofPair, he]

private theorem others_map_ofPair (k : Kind) (entries : List (String × Json)) :
    others (entries.map (Entry.ofPair k)) = entries.filter (·.1 ≠ kindKey) := by
  induction entries with
  | nil => rfl
  | cons e rest ih =>
    rw [others] at ih ⊢
    by_cases he : e.1 = kindKey
    · simp [Entry.ofPair, he, ih]
    · simp [Entry.ofPair, he, ih]

namespace Reading

section

variable (wrap : Json.Reading → Reading) (next : Json → Reading)
  (hstep : ∀ inner, step (wrap inner) = takeInner wrap next inner)

include hstep

/-- A state that takes tokens into a reading of its own goes on once the value is complete. -/
private theorem foldlM_inner {inner : Json.Reading} {t : Token} {rest : List Token} {v : Json}
    (hrun : (t :: rest).foldlM (Json.Reading.step nestingLimit) inner = .ok (.done v)) :
    (t :: rest).foldlM step (wrap inner) = .ok (next v) := by
  induction rest generalizing inner t with
  | nil =>
    obtain ⟨mid, hmid, hdone⟩ := bind_eq_ok.1 hrun
    cases hdone
    exact foldlM_cons_of_step (by rw [hstep, takeInner, hmid]) []
  | cons u rest ih =>
    obtain ⟨mid, hmid, hrest⟩ := bind_eq_ok.1 hrun
    have hwrap : (wrap inner).step t = .ok (wrap mid) := by
      rw [hstep, takeInner, hmid]
      -- a value that is complete would take no further token
      cases mid with
      | done w => cases hrest
      | _ => rfl
    rw [foldlM_cons_of_step hwrap]
    exact ih hrest

private theorem foldlM_innerTokens {v : Json} (hv : v.depth ≤ nestingLimit) :
    v.tokens.foldlM step (wrap (.value [])) = .ok (next v) := by
  have hrun : v.tokens.foldlM (Json.Reading.step nestingLimit) (.value []) = .ok (.done v) :=
    Json.Reading.foldlM_tokens v (by simpa using hv)
  obtain ⟨t, rest, htokens, _⟩ := exists_cons_tokens v
  rw [htokens] at hrun ⊢
  exact foldlM_inner wrap next hstep hrun

end

/-- The tokens of an entry lead behind it. -/
private theorem foldlM_entry {k : Kind} {before : List Entry} {e : String × Json}
    (hdepth : e.2.depth ≤ nestingLimit)
    (hkind : e.1 = kindKey → e.2 = .text k.name ∧ kind? before = none) :
    (tokensOfEntry e).foldlM step (.nextKey before) =
      .ok (.closed (before ++ [Entry.ofPair k e])) := by
  obtain ⟨key, v⟩ := e
  have hkey : step (.nextKey before) (.text key) = .ok (.keyed before key) :=
    readKey_eq_ok_iff.2 ⟨key, rfl, fun h => (hkind h).2, rfl⟩
  rw [tokensOfEntry, foldlM_cons_of_step hkey]
  by_cases h : key = kindKey
  · -- behind its key the kind is the only thing that is accepted
    obtain ⟨hvalue, _⟩ := hkind h
    have hcolon : step (.keyed before key) .colon = .ok (.kindValue before) := by
      rw [step, if_pos h]
    have hname : step (.kindValue before) (.text k.name) = .ok (.closed (before ++ [.kind k])) :=
      readKind_eq_ok_iff.2 ⟨k, rfl, rfl⟩
    rw [foldlM_cons_of_step hcolon, Entry.ofPair, if_pos h]
    rw [show v = .text k.name from hvalue, tokens, foldlM_cons_of_step hname]
    rfl
  · -- any other value is left to the reader of values
    have hcolon : step (.keyed before key) .colon = .ok (.value before key (.value [])) := by
      rw [step, if_neg h]
    rw [foldlM_cons_of_step hcolon, Entry.ofPair, if_neg h]
    exact foldlM_innerTokens (.value before key) (fun v => .closed (before ++ [.other key v]))
      (fun _ => rfl) hdepth

/-- Among entries of which one is the kind, each is read as an entry. -/
private theorem foldlM_entryOf {k : Kind} {entries : List (String × Json)}
    (hkind : entries.filter (·.1 = kindKey) = [(kindKey, .text k.name)])
    (hdepth : ∀ e ∈ entries, e.2.depth ≤ nestingLimit) {before rest : List (String × Json)}
    {e : String × Json} (hsplit : before ++ e :: rest = entries) :
    (tokensOfEntry e).foldlM step (.nextKey (before.map (Entry.ofPair k))) =
      .ok (.closed ((before ++ [e]).map (Entry.ofPair k))) := by
  rw [List.map_append]
  apply foldlM_entry (hdepth e (hsplit ▸ by simp))
  intro he
  rw [← hsplit, List.filter_append, List.filter_cons_of_pos (by simpa using he)] at hkind
  -- if this entry is the one kind, there was none before it
  cases hbefore : before.filter (·.1 = kindKey) with
  | nil =>
    rw [hbefore, List.nil_append] at hkind
    rw [kind?_map_ofPair, if_pos hbefore]
    exact ⟨congrArg Prod.snd (List.cons.inj hkind).1, rfl⟩
  | cons f others =>
    rw [hbefore] at hkind
    simp at hkind

/-- The tokens of the remaining entries lead to the end of the object. -/
private theorem foldlM_entries {k : Kind} {entries : List (String × Json)}
    (hkind : entries.filter (·.1 = kindKey) = [(kindKey, .text k.name)])
    (hdepth : ∀ e ∈ entries, e.2.depth ≤ nestingLimit) {before rest : List (String × Json)}
    {e : String × Json} (hsplit : before ++ e :: rest = entries) :
    (entryTokens (e :: rest) ++ [Token.closeObject]).foldlM step
        (.nextKey (before.map (Entry.ofPair k))) =
      endObject (entries.map (Entry.ofPair k)) := by
  have hentry := foldlM_entryOf hkind hdepth hsplit
  induction rest generalizing before e with
  | nil =>
    rw [entryTokens, ← hsplit]
    exact (foldlM_append_of_run hentry _).trans (bind_pure _)
  | cons f rest ih =>
    have hsplit' : before ++ [e] ++ f :: rest = entries := by
      rw [← hsplit, List.append_assoc]
      rfl
    rw [entryTokens, List.append_assoc]
    exact (foldlM_append_of_run hentry _).trans
      (ih hsplit' (foldlM_entryOf hkind hdepth hsplit'))

/-- An object that represents a diagnostic leads to it. -/
private theorem foldlM_object {d : Diagnostic} {entries : List (String × Json)} {field : Json}
    (hkind : entries.filter (·.1 = kindKey) = [(kindKey, .text d.kind.name)])
    (hfield : entries.filter (·.1 = d.kind.fieldName) = [(d.kind.fieldName, field)])
    (h : d.FieldDenotedBy field) (hdepth : ∀ e ∈ entries, e.2.depth ≤ nestingLimit) :
    (Json.object entries).tokens.foldlM step .start = .ok (.done d) := by
  cases entries with
  | nil => simp at hkind
  | cons e rest =>
    have hrun := foldlM_entries hkind hdepth (List.nil_append (e :: rest))
    have hend : endObject ((e :: rest).map (Entry.ofPair d.kind)) = .ok (.done d) := by
      refine endObject_eq_ok_iff.2 ⟨d.kind, d, ?_, ?_, rfl⟩
      · rw [kind?_map_ofPair, if_neg (by rw [hkind]; simp)]
      · refine ofEntries_eq_ok_iff.2 ⟨field, ?_, ofField_eq_ok_iff.2 ⟨rfl, h⟩⟩
        rw [others_map_ofPair, filter_foreign d.kind.fieldName_ne, hfield]
    -- the first key is read alike in the freshly opened object and behind a comma
    obtain ⟨ts, hts⟩ := exists_cons_entryTokens e rest
    have hopen : step .start .openObject = .ok .firstKey := rfl
    rw [tokens, List.cons_append, foldlM_cons_of_step hopen]
    rw [hts] at hrun ⊢
    exact hrun.trans hend

/-- An array that represents a diagnostic leads to it. -/
private theorem foldlM_array {d : Diagnostic} {field : Json} (h : d.FieldDenotedBy field)
    (hdepth : field.depth ≤ nestingLimit) :
    (Json.array [.text d.kind.name, field]).tokens.foldlM step .start = .ok (.done d) := by
  have hopen : step .start .openArray = .ok .firstItem := rfl
  have hname : step .firstItem (.text d.kind.name) = .ok (.closedItem d.kind []) :=
    readKind_eq_ok_iff.2 ⟨d.kind, rfl, rfl⟩
  have hcomma : step (.closedItem d.kind []) .comma = .ok (.item d.kind [] (.value [])) := rfl
  have hitem := foldlM_innerTokens (.item d.kind []) (fun v => .closedItem d.kind [v])
    (fun _ => rfl) hdepth
  have hclose : step (.closedItem d.kind [field]) .closeArray = .ok (.done d) :=
    conclude_eq_ok_iff.2 ⟨d, ofItems_eq_ok_iff.2 ⟨field, rfl, ofField_eq_ok_iff.2 ⟨rfl, h⟩⟩, rfl⟩
  have htokens : (Json.array [.text d.kind.name, field]).tokens =
      .openArray :: .text d.kind.name :: .comma :: (field.tokens ++ [.closeArray]) := by
    simp [tokens, itemTokens]
  rw [htokens, foldlM_cons_of_step hopen, foldlM_cons_of_step hname, foldlM_cons_of_step hcomma,
    foldlM_append_of_run hitem, foldlM_cons_of_step hclose]
  rfl

end Reading

/-- What represents a diagnostic is decoded as it from every spelling, if its numbers are in
range. -/
theorem decode_of_representedBy {text : String} {d : Diagnostic} {v : Json}
    (hspelled : v.SpelledBy text) (hrange : v.InRange) (hdepth : v.depth ≤ nestingLimit + 1)
    (h : d.RepresentedBy v) : decode text = .ok d := by
  have hrun : v.tokens.foldlM Reading.step .start = .ok (.done d) := by
    cases h with
    | object hkind hfield hdenoted =>
      exact Reading.foldlM_object hkind hfield hdenoted (depth_object_le_iff.1 hdepth)
    | @array field hdenoted =>
      have hitems := depth_array_le_iff.1 hdepth
      exact Reading.foldlM_array hdenoted (hitems field (by simp))
  exact (Decoder.decode_eq_ok_iff decoder_halts).2
    ⟨v.tokens, .done d, scan_of_spelledBy hspelled hrange, hrun, rfl⟩

/-! ## What is accepted -/

/-- Of a text that spells a value it is up to this value alone what is decoded. -/
theorem decode_eq_ok_iff_of_spelledBy {text : String} {d : Diagnostic} {v : Json}
    (hspelled : v.SpelledBy text) :
    decode text = .ok d ↔ v.InRange ∧ v.depth ≤ 127 ∧ d.RepresentedBy v := by
  constructor
  · intro h
    obtain ⟨w, hw, hrange, hdepth, hd⟩ := representedBy_of_decode h
    obtain rfl : v = w := eq_of_spelledBy hw hrange hspelled
    exact ⟨hrange, hdepth, hd⟩
  · rintro ⟨hrange, hdepth, hd⟩
    exact decode_of_representedBy hspelled hrange hdepth hd

/-- An object that represents a success and holds a number besides. -/
def successWith (n : Numeral) : Json :=
  .object [(kindKey, .text "status"), ("outcome", .text "success"), ("n", .number n)]

theorem representedBy_successWith (n : Numeral) :
    RepresentedBy (.status .success) (successWith n) :=
  .object rfl rfl .label

theorem depth_successWith (n : Numeral) : (successWith n).depth = 1 := by
  simp [successWith, depth, entriesDepth]

theorem number_mem_successWith {n m : Numeral} :
    Token.number m ∈ (successWith n).tokens ↔ m = n := by
  simp [successWith, tokens, entryTokens]

theorem spelledBy_successWith {n : Numeral} (hn : n.WellFormed) {text : String}
    (htext : (successWith n).compact = text) : (successWith n).SpelledBy text := by
  rw [← htext]
  exact spelledBy_compact fun m hm => number_mem_successWith.1 hm ▸ hn

/-- A diagnostic is decoded from exactly the texts that spell a value which represents it, in which
at most 127 arrays and objects lie inside each other, and of which the readers take every number.
They take a number if it is not beyond double precision, except perhaps where its magnitude is
within a part in 2^51 of 2^1024. -/
theorem decode_eq_ok_iff_exists_representation (text : String) (d : Diagnostic) :
    (decode text = .ok d ↔
      ∃ v : Json, v.SpelledBy text ∧ v.InRange ∧ v.depth ≤ 127 ∧ d.RepresentedBy v) ∧
    ∀ v : Json, v.SpelledBy text →
      (∀ n, Token.number n ∈ v.tokens →
        n.magnitude ≤ 2 ^ 1024 * (1 - 1 / 2 ^ 51) ∨ 2 ^ 1024 * (1 + 1 / 2 ^ 51) ≤ n.magnitude) →
      (v.InRange ↔ v.FitsDouble) := by
  constructor
  · constructor
    · exact representedBy_of_decode
    · rintro ⟨v, hspelled, hrange, hdepth, hd⟩
      exact decode_of_representedBy hspelled hrange hdepth hd
  · intro v hspelled hclear
    apply forall₂_congr
    intro n hn
    rw [← Numeral.overflows_iff_overflowsDouble (hspelled.wellFormed hn) (hclear n hn),
      Bool.not_eq_true]

/-- Close to the bound the readers' arithmetic and double precision part, in both directions: a
number beyond double precision is accepted, and a number within it is refused. -/
theorem accepted_beyond_double_and_refused_within :
    let beyond :=
      "\x7b\"event\":\"status\",\"outcome\":\"success\",\"n\":179769313486231581e291\x7d"
    let within :=
      "\x7b\"event\":\"status\",\"outcome\":\"success\",\"n\":1.7976931348623158e308\x7d"
    (decode beyond = .ok (.status .success) ∧
      ¬ ∃ v : Json, v.SpelledBy beyond ∧ v.FitsDouble ∧ v.depth ≤ 127 ∧
        RepresentedBy (.status .success) v) ∧
    decode within ≠ .ok (.status .success) ∧
      ∃ v : Json, v.SpelledBy within ∧ v.FitsDouble ∧ v.depth ≤ 127 ∧
        RepresentedBy (.status .success) v := by
  intro beyond within
  have hdepth (n : Numeral) : (successWith n).depth ≤ 127 := by simp [depth_successWith]
  constructor
  · let n : Numeral :=
      ⟨false, "179769313486231581".toList, none, some ⟨false, .absent, "291".toList⟩⟩
    have hn : n.WellFormed :=
      ⟨⟨by decide, by simp [n]⟩, by decide, by simp [n], by simp [n, IsDigits]⟩
    have hover : n.OverflowsDouble := by
      have hnat : 2 ^ 1024 ≤ 179769313486231581 * 10 ^ 291 + 2 ^ 970 := by decide +kernel
      rw [Numeral.OverflowsDouble, Numeral.magnitude_eq (m := 179769313486231581) (k := 291)
        (by decide +kernel) (by decide +kernel), sub_le_iff_le_add]
      exact_mod_cast hnat
    have hrange : (successWith n).InRange := by
      intro m hm
      rw [number_mem_successWith.1 hm]
      decide +kernel
    have htext := spelledBy_successWith hn (show _ = beyond by decide +kernel)
    have haccepted : decode beyond = .ok (.status .success) :=
      decode_of_representedBy htext hrange (hdepth n) (representedBy_successWith n)
    refine ⟨haccepted, ?_⟩
    rintro ⟨v, hv, hfits, -⟩
    obtain rfl := eq_of_spelledBy htext hrange hv
    exact hfits n (number_mem_successWith.2 rfl) hover
  · let n : Numeral :=
      ⟨false, ['1'], some "7976931348623158".toList, some ⟨false, .absent, "308".toList⟩⟩
    have hn : n.WellFormed :=
      ⟨⟨by decide, by simp [n]⟩, by decide, by simp [n, IsDigits], by simp [n, IsDigits]⟩
    have hwithin : ¬ n.OverflowsDouble := by
      have hnat : 17976931348623158 * 10 ^ 292 + 2 ^ 970 < 2 ^ 1024 := by decide +kernel
      rw [Numeral.OverflowsDouble, Numeral.magnitude_eq (m := 17976931348623158) (k := 292)
        (by decide +kernel) (by decide +kernel), sub_le_iff_le_add, not_le]
      exact_mod_cast hnat
    have hover : n.overflows = true := by decide +kernel
    have htext := spelledBy_successWith hn (show _ = within by decide +kernel)
    refine ⟨?_, successWith n, htext, ?_, hdepth n, representedBy_successWith n⟩
    · intro h
      obtain ⟨hrange, -⟩ := (decode_eq_ok_iff_of_spelledBy htext).1 h
      rw [hrange n (number_mem_successWith.2 rfl)] at hover
      cases hover
    · intro m hm
      rw [number_mem_successWith.1 hm]
      exact hwithin

end GreetingCheck.Diagnostic
