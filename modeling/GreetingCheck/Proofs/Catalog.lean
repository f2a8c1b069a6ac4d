import Mathlib.Data.List.DropRight
import Mathlib.Data.List.TakeWhile
import GreetingCheck.Catalog
import GreetingCheck.Proofs.Text.Template

/-!
# Filling the templates of the catalog

Every template of the catalog consists of literal text and placeholders (`Entry.exists_parts`), and
so a message is its template with all placeholders filled at once (`say_eq_filled`), although they
are filled one after the other. The same holds of a text that is its own template
(`translate_eq_filled`), as long as no value brings in an opening brace.
-/

namespace GreetingCheck.Catalog

open Text.Template

/-! ## Messages from their templates -/

theorem say_eq (locale : Locale) (entry : Entry) (args : List Argument) :
    say locale entry args = format (entry.template locale) args := by
  rw [say, translate, template, Entry.ofKey?_key]

@[simp] theorem toList_say_nil (locale : Locale) (entry : Entry) :
    (say locale entry []).toList = (entry.template locale).toList := by
  rw [say_eq, format, String.toList_ofList, List.foldl_nil]

/-- A message without arguments is its template. -/
theorem say_nil (locale : Locale) (entry : Entry) : say locale entry [] = entry.template locale :=
  String.toList_injective (toList_say_nil locale entry)

/-- A message is its template with all placeholders filled at once, whatever its last value is. -/
theorem say_eq_filled {locale : Locale} {entry : Entry} {parts : List Part} {args : List Argument}
    (htemplate : (entry.template locale).toList = parts.flatMap Part.write)
    (hparts : ∀ part ∈ parts, part.WellFormed) (hnames : ∀ a ∈ args, '}' ∉ a.name.toList)
    (hvalues : ∀ a ∈ args.dropLast, '{' ∉ a.value.toList) :
    say locale entry args = filled args parts := by
  have hwritten : entry.template locale = written parts :=
    String.toList_injective (by rw [htemplate, written, String.toList_ofList])
  rw [say_eq, hwritten, format_written hparts hnames hvalues]

/-! ## The words of a template -/

/-- The words of a message in front of its first placeholder. -/
def Entry.lead (locale : Locale) (entry : Entry) : String :=
  .ofList ((entry.template locale).toList.takeWhile (· ≠ '{'))

/-- The words of a message behind its last placeholder. -/
def Entry.trail (locale : Locale) (entry : Entry) : String :=
  .ofList ((entry.template locale).toList.rtakeWhile (· ≠ '}'))

theorem no_brace_lead (locale : Locale) (entry : Entry) :
    '{' ∉ (entry.lead locale).toList := by
  intro h
  rw [Entry.lead, String.toList_ofList] at h
  have hne := List.mem_takeWhile_imp h
  simp at hne

/-- A message that ends with its only placeholder ends with the value for it. -/
theorem say_last {locale : Locale} {entry : Entry} {name : String}
    (h : (entry.template locale).toList = (entry.lead locale).toList ++ placeholder name.toList)
    (value : String) : say locale entry [⟨name, value⟩] = entry.lead locale ++ value := by
  apply String.toList_injective
  have hlead := no_brace_lead locale entry
  rw [say_eq, format, String.toList_ofList, String.toList_append, h]
  show fill name.toList value.toList _ = _
  rw [fill_append_of_no_brace hlead, ← List.append_nil (placeholder name.toList),
    fill_placeholder_append, fill_nil, List.append_nil]

/-- A message with two placeholders has both values in their places, whatever the second is. -/
theorem say_pair {locale : Locale} {entry : Entry} {first second : String}
    (h : (entry.template locale).toList = (entry.lead locale).toList ++
      (placeholder first.toList ++ (": ".toList ++ (placeholder second.toList ++
        (entry.trail locale).toList))))
    (hparts : ∀ part ∈ [Part.placeholder first.toList, .placeholder second.toList,
      .literal (entry.trail locale).toList], part.WellFormed)
    (hne : first ≠ second) {value : String} (hvalue : '{' ∉ value.toList) (value' : String) :
    say locale entry [⟨first, value⟩, ⟨second, value'⟩] =
      entry.lead locale ++ value ++ ": " ++ value' ++ entry.trail locale := by
  simp only [List.forall_mem_cons] at hparts
  obtain ⟨hfirst, hsecond, htrail, -⟩ := hparts
  let parts : List Part := [.literal (entry.lead locale).toList, .placeholder first.toList,
    .literal ": ".toList, .placeholder second.toList, .literal (entry.trail locale).toList]
  have htemplate : (entry.template locale).toList = parts.flatMap Part.write := by
    rw [h]
    simp [parts, Part.write]
  have hwellFormed : ∀ part ∈ parts, part.WellFormed := by
    simp only [parts, List.forall_mem_cons]
    exact ⟨no_brace_lead locale entry, hfirst, by decide, hsecond, htrail, by simp⟩
  have hnames : ∀ a ∈ [Argument.mk first value, ⟨second, value'⟩], '}' ∉ a.name.toList := by
    simp only [List.forall_mem_cons]
    exact ⟨hfirst.2, hsecond.2, by simp⟩
  have hnames' : first.toList ≠ second.toList := fun hsame => hne (String.toList_injective hsame)
  rw [say_eq_filled htemplate hwellFormed hnames (by simpa using hvalue)]
  apply String.toList_injective
  simp [filled, parts, Part.filled, hnames']

/-! ## The parts of a template -/

/-- The parts of a text that is cut at its braces. -/
def partsOf (text : List Char) : List Part :=
  match text.splitOn '{' with
  | [] => []
  | first :: rest =>
    .literal first :: rest.flatMap fun piece =>
      [.placeholder (piece.takeWhile (· ≠ '}')), .literal (piece.dropWhile (· ≠ '}')).tail]

/-- Every template of the catalog consists of literal text and placeholders. -/
theorem Entry.exists_parts (locale : Locale) (entry : Entry) :
    ∃ parts, entry.template locale = written parts ∧ ∀ part ∈ parts, part.WellFormed := by
  have hparts {text : List Char} (h : text = (partsOf text).flatMap Part.write ∧
      ∀ part ∈ partsOf text, part.WellFormed) :
      ∃ parts, String.ofList text = written parts ∧ ∀ part ∈ parts, part.WellFormed :=
    ⟨partsOf text, congrArg String.ofList h.1, h.2⟩
  cases locale <;> cases entry <;> exact hparts (by decide +kernel)

/-- The templates of the catalog are well formed, and wherever a key stands for a well-formed
template, its message is that template with all placeholders filled at once. So arguments with
different names may come in any order. -/
theorem translate_eq_filled (locale : Locale) :
    (∀ entry : Entry, ∃ parts, template locale entry.key = written parts ∧
      ∀ part ∈ parts, part.WellFormed) ∧
    ∀ {key : String} {parts : List Part} {args : List Argument},
      template locale key = written parts → (∀ part ∈ parts, part.WellFormed) →
      (∀ a ∈ args, '}' ∉ a.name.toList) → (∀ a ∈ args, '{' ∉ a.value.toList) →
      translate locale key args = filled args parts ∧
      ((args.map Argument.name).Nodup →
        ∀ args', args'.Perm args → translate locale key args' = translate locale key args) := by
  constructor
  · intro entry
    rw [template, Entry.ofKey?_key]
    exact entry.exists_parts locale
  · intro key parts args htemplate hparts hnames hvalues
    have hfilled {args' : List Argument} (h : args' ⊆ args) :
        translate locale key args' = filled args' parts := by
      rw [translate, htemplate]
      exact format_written hparts (fun a ha => hnames a (h ha))
        (fun a ha => hvalues a (h (List.dropLast_subset _ ha)))
    refine ⟨hfilled (List.Subset.refl args), fun hnodup args' hperm => ?_⟩
    rw [hfilled hperm.subset, hfilled (List.Subset.refl args), filled_eq_of_perm hperm hnodup]

/-- A value may end like a placeholder, and of two values for one name the first counts. -/
theorem translate_unknown_key :
    translate .catalan "{b} {a}{c}" [⟨"a", "b\x7d"⟩, ⟨"b", "a"⟩, ⟨"a", "?"⟩] = "a b\x7d{c}" ∧
      translate .catalan "{b} {a}{c}" [⟨"b", "a"⟩, ⟨"a", "b\x7d"⟩] =
        translate .catalan "{b} {a}{c}" [⟨"a", "b\x7d"⟩, ⟨"b", "a"⟩] := by
  let parts : List Part :=
    [.placeholder ['b'], .literal [' '], .placeholder ['a'], .placeholder ['c']]
  let args : List Argument := [⟨"a", "b\x7d"⟩, ⟨"b", "a"⟩]
  have htemplate : template .catalan "{b} {a}{c}" = written parts := by decide +kernel
  have hparts : ∀ part ∈ parts, part.WellFormed := by decide
  have hfirst : translate .catalan "{b} {a}{c}" (args ++ [⟨"a", "?"⟩]) =
      filled (args ++ [⟨"a", "?"⟩]) parts :=
    ((translate_eq_filled .catalan).2 htemplate hparts (by decide) (by decide)).1
  have horder := ((translate_eq_filled .catalan).2 htemplate hparts
    (by decide : ∀ a ∈ args, '}' ∉ a.name.toList) (by decide)).2 (by decide)
  exact ⟨hfirst.trans (by decide +kernel), horder args.reverse (List.reverse_perm args)⟩

end GreetingCheck.Catalog
