import GreetingCheck.Locale
import GreetingCheck.Proofs.Text.Blank

/-!
# Requests for a locale

A request asks for a locale if, between its blanks, the label of the locale in either case comes
first and then nothing more or a separator (`Locale.AskedForBy`), and these are the only requests
that are understood (`ofRequest?_eq_some_iff`). What the blanks around a request, the case of its
letters and the text behind its first separator are makes no difference to the language that it
names.
-/

namespace GreetingCheck.Locale

open Text

/-! ## Labels and separators -/

theorem ofLabel?_eq_some_iff {name : String} {l : Locale} :
    ofLabel? name = some l ↔ name = l.label := by
  constructor
  · intro h
    have hlabel := List.find?_some h
    simpa [eq_comm] using hlabel
  · rintro rfl
    exact ofLabel?_label l

/-- A label is written in lower case and without separators. -/
theorem no_separator_label (l : Locale) : ∀ c ∈ l.label.toList, isSeparator c = false := by
  have hall : l.label.toList.all (!isSeparator ·) = true := by
    cases l <;> decide
  simpa using hall

@[simp] theorem isSeparator_toLower (c : Char) : isSeparator c.toLower = isSeparator c :=
  apply_toLower (f := isSeparator) (by decide) c

theorem not_isBlank_of_isSeparator {c : Char} (h : isSeparator c) : isBlank c = false := by
  simp only [isSeparator, Bool.or_eq_true, decide_eq_true_eq] at h
  rcases h with (rfl | rfl) | rfl <;> decide

/-! ## The language of a request -/

/-- The case of the letters does not move the first separator. -/
theorem language_eq (request : List Char) :
    language request = ((trim request).takeWhile (!isSeparator ·)).map Char.toLower := by
  have hseparator : (!isSeparator ·) ∘ Char.toLower = (!isSeparator ·) := by
    funext c
    exact congrArg not (isSeparator_toLower c)
  rw [language, List.takeWhile_map, hseparator]

/-- A request asks for a locale if what it has between its blanks begins with the label of the locale,
in either case, and then ends or goes on with a separator. -/
inductive AskedForBy (l : Locale) (request : List Char) : Prop
  | named {name rest : List Char} (htrim : TrimsTo request (name ++ rest))
      (hname : name.map Char.toLower = l.label.toList)
      (hrest : ∀ c ∈ rest.head?, isSeparator c) : AskedForBy l request

/-- A text that is a label in either case has no separator in it. -/
theorem takeWhile_name {l : Locale} {name : List Char}
    (hname : name.map Char.toLower = l.label.toList) :
    name.takeWhile (!isSeparator ·) = name := by
  rw [List.takeWhile_eq_self_iff]
  intro c hc
  have hlower : c.toLower ∈ l.label.toList := hname ▸ List.mem_map_of_mem hc
  rw [← isSeparator_toLower, no_separator_label l _ hlower]
  rfl

theorem language_eq_label_iff {request : List Char} {l : Locale} :
    language request = l.label.toList ↔ l.AskedForBy request := by
  rw [language_eq]
  constructor
  · intro h
    refine .named (trim_eq_iff.1 List.takeWhile_append_dropWhile.symm) h ?_
    intro c hc
    simpa using head_dropWhile (!isSeparator ·) (trim request) c hc
  · rintro ⟨htrim, hname, hrest⟩
    have hstop : ∀ c ∈ _, (!isSeparator c) = false := fun c hc => congrArg not (hrest c hc)
    rw [trim_eq_iff.2 htrim, takeWhile_append_of_head hstop, takeWhile_name hname, hname]

theorem ofRequest?_eq_some_iff {request : String} {l : Locale} :
    ofRequest? request = some l ↔ l.AskedForBy request.toList := by
  rw [ofRequest?, ofLabel?_eq_some_iff, ← language_eq_label_iff, ← String.toList_inj,
    String.toList_ofList]

theorem ofRequest?_eq_of_language_eq {request request' : String}
    (h : language request.toList = language request'.toList) :
    ofRequest? request = ofRequest? request' := by
  rw [ofRequest?, ofRequest?, h]

/-! ## What makes no difference -/

theorem language_surround {before after : List Char} (hbefore : ∀ c ∈ before, isBlank c)
    (hafter : ∀ c ∈ after, isBlank c) (request : List Char) :
    language (before ++ request ++ after) = language request := by
  have htrim : trim (before ++ request ++ after) = trim request :=
    trim_eq_iff.2 ((trim_eq_iff.1 rfl).append hbefore hafter)
  rw [language, htrim, language]

/-- A request without anything but blanks asks for no locale. -/
theorem ofRequest?_of_blank {request : String} (h : ∀ c ∈ request.toList, isBlank c) :
    ofRequest? request = none := by
  have hlanguage : language request.toList = language [] := by
    simpa using language_surround h (List.forall_mem_nil _) []
  rw [ofRequest?, hlanguage]
  decide

theorem language_eq_of_map_toLower_eq {request request' : List Char}
    (h : request.map Char.toLower = request'.map Char.toLower) :
    language request = language request' := by
  rw [language, ← trim_map_toLower, h, trim_map_toLower, language]

/-- A separator is no blank, so that trimming goes on at neither side of it. -/
theorem language_append_separator {sep : Char} (hsep : isSeparator sep)
    (front back back' : List Char) :
    language (front ++ sep :: back) = language (front ++ sep :: back') := by
  have hlanguage (back : List Char) : language (front ++ sep :: back) =
      ((trimStart front).takeWhile (!isSeparator ·)).map Char.toLower := by
    have hstop : ∀ c ∈ (sep :: trimEnd back).head?, (!isSeparator c) = false := by
      simpa using hsep
    rw [language_eq, trim_append_cons (not_isBlank_of_isSeparator hsep),
      takeWhile_append_of_head hstop]
  rw [hlanguage, hlanguage]

/-- A request is understood exactly as its grammar says, and is not understood if no locale is asked
for by it. What surrounds it, the case of its letters and what follows its first separator
make no difference. -/
theorem requests_understood_by_grammar (request : String) :
    (∀ l : Locale, ofRequest? request = some l ↔ l.AskedForBy request.toList) ∧
    (ofRequest? request = none ↔ ∀ l : Locale, ¬ l.AskedForBy request.toList) ∧
    (∀ before after : List Char, (∀ c ∈ before, isBlank c) → (∀ c ∈ after, isBlank c) →
      ofRequest? (.ofList before ++ request ++ .ofList after) = ofRequest? request) ∧
    (∀ request' : String, request'.toList.map Char.toLower = request.toList.map Char.toLower →
      ofRequest? request' = ofRequest? request) ∧
    ∀ (front back back' : List Char) (sep : Char), isSeparator sep →
      request.toList = front ++ sep :: back →
      ofRequest? (.ofList (front ++ sep :: back')) = ofRequest? request := by
  refine ⟨fun l => ofRequest?_eq_some_iff, ?none, ?blanks, ?case, ?back⟩
  case none =>
    rw [Option.eq_none_iff_forall_ne_some]
    simp only [Ne, ofRequest?_eq_some_iff]
  case blanks =>
    intro before after hbefore hafter
    apply ofRequest?_eq_of_language_eq
    simp only [String.toList_append, String.toList_ofList]
    exact language_surround hbefore hafter request.toList
  case case =>
    intro request' h
    exact ofRequest?_eq_of_language_eq (language_eq_of_map_toLower_eq h)
  case back =>
    intro front back back' sep hsep hrequest
    apply ofRequest?_eq_of_language_eq
    rw [hrequest, String.toList_ofList]
    exact language_append_separator hsep front back' back

/-- A request in mixed case between blanks, with other blanks around it, in another case and with
something else behind its separator. -/
theorem requests_understood_by_grammar_mixed_case :
    ofRequest? " cA_es\n" = some .catalan ∧
      ((∀ c ∈ ['\t'], isBlank c) ∧ (∀ c ∈ ['\u2003'], isBlank c) ∧
        ofRequest? (.ofList ['\t'] ++ " cA_es\n" ++ .ofList ['\u2003']) = some .catalan) ∧
      (" Ca_ES\n".toList.map Char.toLower = " cA_es\n".toList.map Char.toLower ∧
        ofRequest? " Ca_ES\n" = some .catalan) ∧
      isSeparator '_' ∧ " cA_es\n".toList = " cA".toList ++ '_' :: "es\n".toList ∧
        ofRequest? (.ofList (" cA".toList ++ '_' :: ".UTF-8".toList)) = some .catalan := by
  obtain ⟨hasked, -, hblanks, hcase, hback⟩ := requests_understood_by_grammar " cA_es\n"
  have hrequest : ofRequest? " cA_es\n" = some .catalan := by
    rw [hasked]
    have htrim : TrimsTo " cA_es\n".toList ("cA".toList ++ "_es".toList) :=
      trim_eq_iff.1 (by decide)
    exact .named htrim (by decide) (by simp [isSeparator])
  have htab : ∀ c ∈ ['\t'], isBlank c := by simp [isBlank]
  have hspace : ∀ c ∈ ['\u2003'], isBlank c := by simp [isBlank]
  have hlower : " Ca_ES\n".toList.map Char.toLower = " cA_es\n".toList.map Char.toLower := by
    decide
  refine ⟨hrequest, ⟨htab, hspace, ?_⟩, ⟨hlower, ?_⟩, by decide, rfl, ?_⟩
  · rw [← hrequest]
    exact hblanks ['\t'] ['\u2003'] htab hspace
  · rw [← hrequest]
    exact hcase " Ca_ES\n" hlower
  · rw [← hrequest]
    exact hback " cA".toList "es\n".toList ".UTF-8".toList '_' (by decide) rfl

end GreetingCheck.Locale
