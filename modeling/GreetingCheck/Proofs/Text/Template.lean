import Mathlib.Data.List.Induction
import Mathlib.Data.List.Nodup
import Mathlib.Data.List.Perm.Basic
import GreetingCheck.Text.Template

/-!
# Filling placeholders

What becomes of the parts of a template when the placeholders of one name are filled: a text without
an opening brace is kept, a placeholder of that name is replaced, and a placeholder of another name
is kept. What is behind a part is filled by itself, so that a template is filled part by part.

A whole template is filled with one argument after the other. As long as no value but the last
brings in a brace, this comes to the same as filling all of its placeholders at once
(`format_written`), and then the order of the arguments does not matter (`filled_eq_of_perm`).
-/

namespace GreetingCheck.Text.Template

variable {name value text : List Char}

@[simp] theorem fill_nil (name value : List Char) : fill name value [] = [] := by
  rw [fill]

/-- A placeholder begins with an opening brace. -/
private theorem fill_cons_of_ne {c : Char} (hc : c ≠ '{') (text : List Char) :
    fill name value (c :: text) = c :: fill name value text := by
  rw [fill, if_neg]
  intro hfound
  have hbegins := List.isPrefixOf_iff_prefix.1 hfound
  rw [placeholder, List.cons_append, List.cons_prefix_cons] at hbegins
  exact hc hbegins.1.symm

/-- Text without an opening brace is kept. -/
theorem fill_append_of_no_brace {front : List Char} (h : '{' ∉ front) (text : List Char) :
    fill name value (front ++ text) = front ++ fill name value text := by
  induction front with
  | nil => rfl
  | cons c front ih =>
    have hc : c ≠ '{' := fun hc => h (List.mem_cons.2 (.inl hc.symm))
    have hfront : '{' ∉ front := fun hmem => h (List.mem_cons_of_mem c hmem)
    rw [List.cons_append, fill_cons_of_ne hc, ih hfront, List.cons_append]

/-- A placeholder of the name is replaced. -/
theorem fill_placeholder_append (name value text : List Char) :
    fill name value (placeholder name ++ text) = value ++ fill name value text := by
  have hhead : placeholder name ++ text = '{' :: (name ++ ['}'] ++ text) := rfl
  have hfound : (placeholder name).isPrefixOf ('{' :: (name ++ ['}'] ++ text)) = true := by
    apply List.isPrefixOf_iff_prefix.2
    rw [← hhead]
    exact List.prefix_append _ _
  have hlength : name.length + 1 = (name ++ ['}']).length := by simp
  rw [hhead, fill, if_pos hfound, hlength, List.drop_left]

/-- A name ends at the first closing brace. -/
private theorem takeWhile_name {name : List Char} (h : '}' ∉ name) (text : List Char) :
    (name ++ ['}'] ++ text).takeWhile (· ≠ '}') = name := by
  have hname : ∀ c ∈ name, decide (c ≠ '}') = true := by
    intro c hc
    rw [decide_eq_true_iff]
    rintro rfl
    exact h hc
  rw [List.append_assoc, List.takeWhile_append_of_pos hname]
  simp

/-- A placeholder of another name is kept. -/
theorem fill_other_append {other : List Char} (hne : name ≠ other) (hname : '}' ∉ name)
    (hother : '}' ∉ other) (hbrace : '{' ∉ other) (text : List Char) :
    fill name value (placeholder other ++ text) = placeholder other ++ fill name value text := by
  have hhead : placeholder other ++ text = '{' :: (other ++ ['}'] ++ text) := rfl
  have hnot : ¬ (placeholder name).isPrefixOf ('{' :: (other ++ ['}'] ++ text)) := by
    intro hfound
    have hbegins := List.isPrefixOf_iff_prefix.1 hfound
    rw [placeholder, List.cons_append, List.cons_prefix_cons] at hbegins
    obtain ⟨-, rest, hrest⟩ := hbegins
    have htake := congrArg (List.takeWhile (· ≠ '}')) hrest
    rw [takeWhile_name hname, takeWhile_name hother] at htake
    exact hne htake
  have hrest : '{' ∉ other ++ ['}'] := by simpa using hbrace
  rw [hhead, fill, if_neg hnot, fill_append_of_no_brace hrest]
  rfl

/-! ## Whole templates -/

/-- A part of a template. -/
inductive Part
  | literal (text : List Char)
  | placeholder (name : List Char)

namespace Part

/-- A part as it stands in a template. -/
def write : Part → List Char
  | .literal text => text
  | .placeholder name => Template.placeholder name

/-- Literal text has no opening brace in it, and the name of a placeholder no brace at all. -/
def WellFormed : Part → Prop
  | .literal text => '{' ∉ text
  | .placeholder name => '{' ∉ name ∧ '}' ∉ name

instance (part : Part) : Decidable part.WellFormed :=
  match part with
  | .literal text => inferInstanceAs (Decidable ('{' ∉ text))
  | .placeholder name => inferInstanceAs (Decidable ('{' ∉ name ∧ '}' ∉ name))

/-- What a part gives way to: literal text to itself, and a placeholder to the value of the first
argument of its name. A placeholder without an argument is kept. -/
def filled (args : List Argument) : Part → List Char
  | .literal text => text
  | .placeholder name =>
    match args.find? (·.name.toList = name) with
    | some a => a.value.toList
    | none => Template.placeholder name

end Part

/-- A template with given parts. -/
def written (parts : List Part) : String := .ofList (parts.flatMap Part.write)

/-- A template with all of its placeholders filled at once. -/
def filled (args : List Argument) (parts : List Part) : String :=
  .ofList (parts.flatMap (Part.filled args))

/-- One more argument goes to the placeholders of its name that the arguments before it have
left. -/
theorem fill_filled_part {before : List Argument} {a : Argument} {part : Part}
    (hbefore : ∀ b ∈ before, '{' ∉ b.value.toList) (hname : '}' ∉ a.name.toList)
    (hpart : part.WellFormed) (text : List Char) :
    fill a.name.toList a.value.toList (part.filled before ++ text) =
      part.filled (before ++ [a]) ++ fill a.name.toList a.value.toList text := by
  cases part with
  | literal words => exact fill_append_of_no_brace hpart text
  | placeholder name =>
    simp only [Part.filled, List.find?_append]
    cases hfound : before.find? (·.name.toList = name) with
    | some b =>
      -- the placeholder is gone, and the value in its place is none itself
      exact fill_append_of_no_brace (hbefore b (List.mem_of_find?_eq_some hfound)) text
    | none =>
      by_cases hsame : a.name.toList = name
      · subst hsame
        simpa using fill_placeholder_append a.name.toList a.value.toList text
      · simpa [hsame] using fill_other_append hsame hname hpart.2 hpart.1 text

theorem fill_filled {before : List Argument} {a : Argument} {parts : List Part}
    (hbefore : ∀ b ∈ before, '{' ∉ b.value.toList) (hname : '}' ∉ a.name.toList)
    (hparts : ∀ part ∈ parts, part.WellFormed) :
    fill a.name.toList a.value.toList (parts.flatMap (Part.filled before)) =
      parts.flatMap (Part.filled (before ++ [a])) := by
  induction parts with
  | nil => exact fill_nil _ _
  | cons part rest ih =>
    have hrest : ∀ part ∈ rest, part.WellFormed :=
      fun other hother => hparts other (List.mem_cons_of_mem part hother)
    rw [List.flatMap_cons, List.flatMap_cons,
      fill_filled_part hbefore hname (hparts part List.mem_cons_self), ih hrest]

/-- The arguments may go in one after the other, for the text that they go into never looks like a
placeholder where the template has none. The last value is not looked into any more. -/
theorem format_written {parts : List Part} {args : List Argument}
    (hparts : ∀ part ∈ parts, part.WellFormed) (hnames : ∀ a ∈ args, '}' ∉ a.name.toList)
    (hvalues : ∀ a ∈ args.dropLast, '{' ∉ a.value.toList) :
    format (written parts) args = filled args parts := by
  have hfold : args.foldl (fun text a => fill a.name.toList a.value.toList text)
      (parts.flatMap Part.write) = parts.flatMap (Part.filled args) := by
    -- from the end, since an argument meets what all of those before it have left
    induction args using List.reverseRecOn with
    | nil =>
      have hnone : Part.filled [] = Part.write := by
        funext part
        cases part <;> rfl
      rw [hnone]
      rfl
    | append_singleton before a ih =>
      rw [List.dropLast_concat] at hvalues
      rw [List.foldl_concat, ih ?_ ?_]
      · exact fill_filled hvalues (hnames a (by simp)) hparts
      · exact fun b hb => hnames b (List.mem_append_left _ hb)
      · exact fun b hb => hvalues b (List.dropLast_subset _ hb)
  rw [format, written, String.toList_ofList, hfold, filled]

/-- Among arguments with different names, the one of a given name is found wherever it stands. -/
theorem find?_name_eq_some_iff {args : List Argument} (h : (args.map Argument.name).Nodup)
    {name : List Char} {a : Argument} :
    args.find? (·.name.toList = name) = some a ↔ a ∈ args ∧ a.name.toList = name := by
  constructor
  · intro hfound
    exact ⟨List.mem_of_find?_eq_some hfound, by simpa using List.find?_some hfound⟩
  · intro hmem
    rcases hmem with ⟨hmem, rfl⟩
    obtain ⟨b, hfound⟩ : ∃ b, args.find? (·.name.toList = a.name.toList) = some b := by
      rw [← Option.isSome_iff_exists, List.find?_isSome]
      exact ⟨a, hmem, by simp⟩
    have hname : b.name = a.name :=
      String.toList_injective (by simpa using List.find?_some hfound)
    rw [hfound, List.inj_on_of_nodup_map h (List.mem_of_find?_eq_some hfound) hmem hname]

/-- Arguments with different names fill a template alike in every order. -/
theorem filled_eq_of_perm {args args' : List Argument} (hperm : args'.Perm args)
    (h : (args.map Argument.name).Nodup) (parts : List Part) :
    filled args' parts = filled args parts := by
  have hfind (name : List Char) :
      args'.find? (·.name.toList = name) = args.find? (·.name.toList = name) := by
    have h' : (args'.map Argument.name).Nodup := (hperm.map _).nodup_iff.2 h
    ext a
    rw [find?_name_eq_some_iff h', find?_name_eq_some_iff h, hperm.mem_iff]
  unfold filled
  congr 2
  funext part
  cases part with
  | literal text => rfl
  | placeholder name => simp only [Part.filled, hfind]

end GreetingCheck.Text.Template
