import GreetingCheck.Proofs.Report.Handover

/-!
# What an echo tells of the arguments

Both runs echo their arguments joined by spaces, and a reader of the echo cuts it at every space
(`Arguments.ofEcho`). What is found then, joined again, is the echo (`joined_ofEcho`), so that
nothing is lost in cutting it. The arguments themselves are found if there are any and none of them
has a space in it, and not otherwise (`ofEcho_joined_iff`).

Among arguments without spaces this leaves one pair with the same echo: no arguments, and a single
empty one (`joined_eq_iff`). Both fail the check. As a sink learns nothing but the echo and the
outcome (`runReport_eq_iff`), no sink can tell their reports apart either.
-/

namespace GreetingCheck

/-- What a text is cut into at a character is free of that character. -/
theorem Text.not_mem_of_mem_splitOn {separator : Char} {text part : List Char}
    (h : part ∈ text.splitOn separator) : separator ∉ part := by
  induction text generalizing part with
  | nil =>
    rw [List.splitOn_nil, List.mem_singleton] at h
    rw [h]
    exact List.not_mem_nil
  | cons c text ih =>
    rw [List.splitOn_cons_eq_if_modifyHead] at h
    by_cases hc : c = separator
    · rw [if_pos (beq_iff_eq.2 hc), List.mem_cons] at h
      rcases h with rfl | h
      · exact List.not_mem_nil
      · exact ih h
    · -- the character goes to the front of the first part, which there always is
      obtain ⟨first, rest, hparts⟩ :=
        List.exists_cons_of_ne_nil (List.splitOn_ne_nil separator text)
      rw [if_neg (mt beq_iff_eq.1 hc), hparts, List.modifyHead_cons, List.mem_cons] at h
      rw [hparts] at ih
      rcases h with rfl | h
      · rw [List.mem_cons, not_or]
        exact ⟨Ne.symm hc, ih List.mem_cons_self⟩
      · exact ih (List.mem_cons_of_mem first h)

namespace Arguments

/-- None of the arguments has a space in it. -/
def SpaceFree (args : Arguments) : Prop := ∀ arg ∈ args.toList, ' ' ∉ arg.toList

instance (args : Arguments) : Decidable args.SpaceFree :=
  inferInstanceAs (Decidable (∀ arg ∈ args.toList, ' ' ∉ arg.toList))

/-- The arguments that are found in an echo by cutting it at every space. -/
def ofEcho (echo : String) : Arguments := ⟨(echo.toList.splitOn ' ').map String.ofList⟩

/-! ## Cutting an echo -/

theorem toList_joined (args : Arguments) :
    args.joined.toList = [' '].intercalate (args.toList.map String.toList) :=
  String.toList_intercalate

theorem toList_ofEcho_ne_nil (echo : String) : (ofEcho echo).toList ≠ [] := by
  intro h
  exact List.splitOn_ne_nil ' ' echo.toList (List.map_eq_nil_iff.1 h)

theorem spaceFree_ofEcho (echo : String) : (ofEcho echo).SpaceFree := by
  intro arg harg
  obtain ⟨part, hpart, rfl⟩ := List.mem_map.1 harg
  rw [String.toList_ofList]
  exact Text.not_mem_of_mem_splitOn hpart

/-- Cutting loses nothing: every text is the echo of what it is cut into. -/
theorem joined_ofEcho (echo : String) : (ofEcho echo).joined = echo := by
  have hparts : (ofEcho echo).toList.map String.toList = echo.toList.splitOn ' ' := by
    simp [ofEcho, Function.comp_def]
  rw [← String.toList_inj, toList_joined, hparts, List.intercalate_splitOn]

theorem ofEcho_joined {args : Arguments} (hne : args.toList ≠ []) (h : args.SpaceFree) :
    ofEcho args.joined = args := by
  have hparts : args.joined.toList.splitOn ' ' = args.toList.map String.toList := by
    rw [toList_joined]
    apply List.splitOn_intercalate
    · intro part hpart
      obtain ⟨arg, harg, rfl⟩ := List.mem_map.1 hpart
      exact h arg harg
    · exact mt List.map_eq_nil_iff.1 hne
  rw [ofEcho, hparts, List.map_map]
  simp [Function.comp_def]

/-- Arguments are found in their echo exactly if there are any and none has a space in it. -/
theorem ofEcho_joined_iff (args : Arguments) :
    ofEcho args.joined = args ↔ args.toList ≠ [] ∧ args.SpaceFree := by
  constructor
  · intro h
    rw [← h]
    exact ⟨toList_ofEcho_ne_nil _, spaceFree_ofEcho _⟩
  · rintro ⟨hne, hspaces⟩
    exact ofEcho_joined hne hspaces

/-! ## Arguments with the same echo -/

variable {a b : Arguments}

theorem ofEcho_inj {echo echo' : String} : ofEcho echo = ofEcho echo' ↔ echo = echo' := by
  constructor
  · intro h
    rw [← joined_ofEcho echo, h, joined_ofEcho]
  · exact congrArg ofEcho

/-- In the echo of no arguments an empty one is found. -/
theorem ofEcho_joined_eq (h : a.SpaceFree) :
    ofEcho a.joined = if a.toList = [] then ⟨[""]⟩ else a := by
  by_cases hne : a.toList = []
  · rw [if_pos hne, joined, hne]
    rfl
  · rw [if_neg hne, ofEcho_joined hne h]

theorem joined_eq_iff (ha : a.SpaceFree) (hb : b.SpaceFree) :
    a.joined = b.joined ↔
      a = b ∨ a.toList = [] ∧ b.toList = [""] ∨ a.toList = [""] ∧ b.toList = [] := by
  rw [← ofEcho_inj, ofEcho_joined_eq ha, ofEcho_joined_eq hb]
  obtain ⟨args⟩ := a
  obtain ⟨args'⟩ := b
  cases args with
  | nil =>
    cases args' with
    | nil => simp
    | cons first rest => simp [eq_comm]
  | cons first rest =>
    cases args' with
    | nil => simp
    | cons first' rest' => simp

/-! ## Runs with the same echo -/

/-- All that sinks get to know of the arguments of a check is their echo and its outcome. -/
theorem checkWithReport_eq_iff :
    (∀ {σ : Type} (sink : Sink σ), checkWithReport sink a = checkWithReport sink b) ↔
      a.joined = b.joined ∧ a.check = b.check := by
  simp only [checkWithReport_eq]
  rw [Sink.emitAll_then_eq_iff, and_congr_left_iff]
  intro hcheck
  simp [checkPlan, hcheck]

theorem runReport_eq_iff :
    (∀ {σ : Type} (sink : Sink σ), runReport sink a = runReport sink b) ↔
      a.joined = b.joined ∧ a.check = b.check := by
  simp only [runReport_eq]
  rw [Sink.emitAll_then_eq_iff, and_congr_left_iff]
  intro hcheck
  -- a report has the echo twice
  simp [reportPlan, checkPlan, hcheck]

/-- Neither of the two that share an echo begins with the greeting. -/
theorem check_eq_of_joined_eq (ha : a.SpaceFree) (hb : b.SpaceFree) (h : a.joined = b.joined) :
    a.check = b.check := by
  rcases (joined_eq_iff ha hb).1 h with rfl | ⟨ha', hb'⟩ | ⟨ha', hb'⟩
  · rfl
  · rw [check, check, first?, first?, ha', hb']
    decide
  · rw [check, check, first?, first?, ha', hb']
    decide

/-- Cutting the echo of arguments at every space finds them exactly if there are any and none has a
space in it. Arguments without spaces have the same echo exactly if they are the same, or if there
are none on one side and a single empty one on the other; only then are their reports the same for
every sink, and their checks. -/
theorem echo_determines_arguments (a : Arguments) :
    (ofEcho a.joined = a ↔ a.toList ≠ [] ∧ a.SpaceFree) ∧
    ∀ b : Arguments, a.SpaceFree → b.SpaceFree →
      (a.joined = b.joined ↔
        a = b ∨ a.toList = [] ∧ b.toList = [""] ∨ a.toList = [""] ∧ b.toList = []) ∧
      ((∀ {σ : Type} (sink : Sink σ), runReport sink a = runReport sink b) ↔
        a.joined = b.joined) ∧
      ((∀ {σ : Type} (sink : Sink σ), checkWithReport sink a = checkWithReport sink b) ↔
        a.joined = b.joined) := by
  refine ⟨ofEcho_joined_iff a, ?_⟩
  intro b ha hb
  have hboth : a.joined = b.joined ∧ a.check = b.check ↔ a.joined = b.joined :=
    and_iff_left_of_imp (check_eq_of_joined_eq ha hb)
  exact ⟨joined_eq_iff ha hb, runReport_eq_iff.trans hboth, checkWithReport_eq_iff.trans hboth⟩

/-- Empty arguments at both ends are found in the echo. One empty argument more makes another echo,
unless there is none beside it. -/
theorem echo_determines_arguments_empty_ends :
    (⟨["", "hello", "", ""]⟩ : Arguments).joined = " hello  " ∧
      ofEcho " hello  " = ⟨["", "hello", "", ""]⟩ ∧
      (SpaceFree ⟨["hello"]⟩ ∧ SpaceFree ⟨["hello", ""]⟩ ∧
        joined ⟨["hello"]⟩ ≠ joined ⟨["hello", ""]⟩) ∧
      SpaceFree ⟨[]⟩ ∧ SpaceFree ⟨[""]⟩ ∧ joined ⟨[]⟩ = joined ⟨[""]⟩ ∧
        ∀ {σ : Type} (sink : Sink σ), runReport sink ⟨[]⟩ = runReport sink ⟨[""]⟩ := by
  have hends := (echo_determines_arguments ⟨["", "hello", "", ""]⟩).1.2 (by decide)
  have hmore := (echo_determines_arguments ⟨["hello"]⟩).2 ⟨["hello", ""]⟩ (by decide) (by decide)
  have hnone := (echo_determines_arguments ⟨[]⟩).2 ⟨[""]⟩ (by decide) (by decide)
  have hsame : joined ⟨[]⟩ = joined ⟨[""]⟩ := hnone.1.2 (.inr (.inl ⟨rfl, rfl⟩))
  refine ⟨by decide, hends, ⟨by decide, by decide, ?_⟩, by decide, by decide, hsame,
    hnone.2.1.2 hsame⟩
  rw [Ne, hmore.1]
  decide

end Arguments

end GreetingCheck
