import Mathlib.Data.List.Infix
import GreetingCheck.Collection
import GreetingCheck.Proofs.Session

/-!
# Sessions over a sink with limited room

The steps of a session share one sink, which accepts a fixed number of diagnostics and rejects every
later one. The plainest such sink keeps what it accepts, and that depends on nothing but the
diagnostics that it is offered, whether they come in one step or in many: it keeps the first of them
(`sink_after_limited`). A step that the room does not suffice for is rejected, and since it has used
the room up, so is every step behind it that emits anything.

Every other sink that accepts the first diagnostics is mimicked by the plainest one, whatever its
state is (`Sink.AcceptsFirst.mimics`): a session over it has the same answers, and what it has
accepted is what the other one keeps.

It makes no difference whether a checker is used again or a fresh one is made for each check: a
stretch of checks by one checker is the steps of its checks (`playAll_eq`).
-/

namespace GreetingCheck

/-! ## Handing over a list -/

namespace Collection

variable {limit : Nat} {reason : String}

/-- What a sink with limited room answers to the last of so many diagnostics. -/
def verdict (limit : Nat) (reason : String) (offered : Nat) : Except Rejection Unit :=
  if offered ≤ limit then .ok () else .error ⟨reason⟩

/-- The sink keeps the first of the diagnostics that it has been offered. -/
theorem carryOut_limited (offered : List Diagnostic) (d : Diagnostic) :
    ((limited limit reason).emit d).carryOut (offered.take limit) =
      (verdict limit reason (offered ++ [d]).length, (offered ++ [d]).take limit) := by
  have hemit : ((limited limit reason).emit d).carryOut (offered.take limit) =
      if (offered.take limit).length < limit then (.ok (), offered.take limit ++ [d])
      else (.error ⟨reason⟩, offered.take limit) := rfl
  have hlength : (offered ++ [d]).length = offered.length + 1 := List.length_append
  rw [hemit, verdict, hlength, List.length_take]
  by_cases hroom : offered.length < limit
  · have hall : offered.take limit = offered := List.take_of_length_le (by omega)
    have hmore : (offered ++ [d]).take limit = offered ++ [d] :=
      List.take_of_length_le (by omega)
    rw [if_pos (by omega), if_pos (by omega), hall, hmore]
  · rw [if_neg (by omega), if_neg (by omega), List.take_append_of_le_length (by omega)]

/-- So it does when it is handed a list, which is rejected if there is not room for all of it. -/
theorem carryOut_emitAll_limited (offered : List Diagnostic) (d : Diagnostic)
    (rest : List Diagnostic) :
    ((limited limit reason).emitAll (d :: rest)).carryOut (offered.take limit) =
      (verdict limit reason (offered ++ d :: rest).length, (offered ++ d :: rest).take limit) := by
  induction rest generalizing offered d with
  | nil => rw [Sink.emitAll_singleton, carryOut_limited]
  | cons next rest ih =>
    have hemit := @carryOut_limited limit reason offered d
    have hlength : (offered ++ [d]).length = offered.length + 1 := List.length_append
    rw [verdict, hlength] at hemit
    by_cases hroom : offered.length + 1 ≤ limit
    · rw [if_pos hroom] at hemit
      rw [Sink.emitAll, Emission.carryOut_bind_ok hemit, ih, ← List.append_cons]
    · have hmore : ¬ (offered ++ d :: next :: rest).length ≤ limit := by
        rw [List.length_append, List.length_cons]
        omega
      have hkept : (offered ++ [d]).take limit = (offered ++ d :: next :: rest).take limit := by
        rw [List.take_append_of_le_length (by omega), List.take_append_of_le_length (by omega)]
      rw [if_neg hroom] at hemit
      rw [Sink.emitAll, Emission.carryOut_bind_error hemit, verdict, if_neg hmore, hkept]

theorem kept_emitAll_limited (offered plan : List Diagnostic) :
    (((limited limit reason).emitAll plan).carryOut (offered.take limit)).2 =
      (offered ++ plan).take limit := by
  cases plan with
  | nil =>
    rw [List.append_nil]
    rfl
  | cons d rest => rw [carryOut_emitAll_limited]

end Collection

/-! ## Steps over a sink with limited room -/

/-- The diagnostics that a step hands to a sink that keeps everything. -/
def Step.collected (step : Step) : List Diagnostic :=
  ((⟨none, []⟩ : Session (List Diagnostic)).step (fun _ => Collection.unlimited) step).2.sink

theorem Step.collected_eq_plan (step : Step) : step.collected = step.plan := by
  rw [collected, Session.sink_step, Collection.carryOut_emitAll_unlimited]
  rfl

namespace Session

open Collection

variable {limit : Nat} {reason : String}

theorem sink_after_limited (chosen : Option Locale) (offered : List Diagnostic)
    (steps : List Step) :
    (after (fun _ => limited limit reason) ⟨chosen, offered.take limit⟩ steps).sink =
      (offered ++ steps.flatMap Step.collected).take limit := by
  induction steps generalizing chosen offered with
  | nil => rw [List.flatMap_nil, List.append_nil, after_nil]
  | cons first rest ih =>
    have hstep : ((⟨chosen, offered.take limit⟩ : Session _).step
        (fun _ => limited limit reason) first).2 =
        ⟨chosen.or first.locale?, (offered ++ first.plan).take limit⟩ := by
      rw [step_eq]
      simp only [kept_emitAll_limited]
    rw [after_cons, hstep, ih, List.flatMap_cons, first.collected_eq_plan, List.append_assoc]

/-- A step that emits anything is accepted if there is room for everything offered so far. -/
theorem answer_step_limited (chosen : Option Locale) (offered : List Diagnostic) {step : Step}
    (hplan : step.plan ≠ []) :
    ((⟨chosen, offered.take limit⟩ : Session _).step (fun _ => limited limit reason) step).1 =
      step.answer ((chosen.or step.locale?).getD .fallback)
        (verdict limit reason (offered ++ step.collected).length) := by
  obtain ⟨d, rest, hcons⟩ := List.exists_cons_of_ne_nil hplan
  rw [step_eq, step.collected_eq_plan, hcons]
  simp only [carryOut_emitAll_limited]
  rfl

end Session

/-! ## Checkers that are used again -/

/-- A stretch of a session: a single step, or the checks of one checker. -/
inductive Stretch
  | single (step : Step)
  | checker (calls : List Arguments)

/-- The steps of a stretch. -/
def Stretch.steps : Stretch → List Step
  | .single step => [step]
  | .checker calls => calls.map .checkWithReport

namespace Session

variable {σ : Type}

/-- Carries out a stretch: the answers to its steps, and the session as it is behind them. -/
def play (sink : Locale → Sink σ) (s : Session σ) : Stretch → List Answer × Session σ
  | .single first => ([(s.step sink first).1], (s.step sink first).2)
  | .checker calls =>
    ((checkEach (sink s.locale) calls s.sink).1.map .outcome,
      { s with sink := (checkEach (sink s.locale) calls s.sink).2 })

/-- Carries out stretches one after the other. -/
def playAll (sink : Locale → Sink σ) : Session σ → List Stretch → List Answer × Session σ
  | s, [] => ([], s)
  | s, first :: rest =>
    ((s.play sink first).1 ++ (playAll sink (s.play sink first).2 rest).1,
      (playAll sink (s.play sink first).2 rest).2)

theorem run_append (sink : Locale → Sink σ) (s : Session σ) (front back : List Step) :
    run sink s (front ++ back) = run sink s front ++ run sink (after sink s front) back := by
  induction front generalizing s with
  | nil => rfl
  | cons first front ih =>
    show s.step sink first :: run sink (s.step sink first).2 (front ++ back) = _
    rw [ih]
    rfl

/-- A check in a session is a check of the session's sink. -/
theorem step_checkWithReport (sink : Locale → Sink σ) (s : Session σ) (args : Arguments) :
    s.step sink (.checkWithReport args) =
      (.outcome ((GreetingCheck.checkWithReport (sink s.locale) args).carryOut s.sink).1,
        { s with
          sink := ((GreetingCheck.checkWithReport (sink s.locale) args).carryOut s.sink).2 }) := by
  rw [step_eq, checkWithReport_eq, Emission.carryOut_then_pure]
  simp only [Step.locale?, Option.or_none]
  rfl

theorem play_checker (sink : Locale → Sink σ) (s : Session σ) (calls : List Arguments) :
    s.play sink (.checker calls) =
      ((run sink s (calls.map .checkWithReport)).map Prod.fst,
        after sink s (calls.map .checkWithReport)) := by
  induction calls generalizing s with
  | nil => rfl
  | cons args rest ih =>
    have hfirst := step_checkWithReport sink s args
    have hrest := ih (s.step sink (.checkWithReport args)).2
    rw [Prod.mk.injEq, hfirst] at hrest
    rw [List.map_cons, after_cons]
    show _ = ((s.step sink (.checkWithReport args)).1 ::
      (run sink (s.step sink (.checkWithReport args)).2 _).map Prod.fst, _)
    rw [hfirst, ← hrest.1, ← hrest.2]
    rfl

/-- Stretches come to what their steps come to. -/
theorem playAll_eq (sink : Locale → Sink σ) (s : Session σ) (stretches : List Stretch) :
    playAll sink s stretches =
      ((run sink s (stretches.flatMap Stretch.steps)).map Prod.fst,
        after sink s (stretches.flatMap Stretch.steps)) := by
  induction stretches generalizing s with
  | nil => rfl
  | cons first rest ih =>
    have hfirst : s.play sink first =
        ((run sink s first.steps).map Prod.fst, after sink s first.steps) := by
      cases first with
      | single first => rfl
      | checker calls => exact play_checker sink s calls
    rw [playAll, hfirst, ih, List.flatMap_cons, run_append, after_append, List.map_append]

end Session

/-! ## Whole sessions -/

theorem Collection.map_verdict {α : Type} (limit : Nat) (reason : String) (offered : Nat) (a : α) :
    (verdict limit reason offered).map (fun _ => a) =
      if offered ≤ limit then .ok a else .error ⟨reason⟩ := by
  unfold verdict
  split <;> rfl

namespace Session

open Collection

/-- A step of a run that emits anything is accepted if there is room for everything that the steps
up to it and the step itself offer. -/
theorem answer_run_limited (limit : Nat) (reason : String) (chosen : Option Locale)
    {steps : List Step} {i : Nat} {step : Step} (h : steps[i]? = some step)
    (hplan : step.plan ≠ []) :
    ∃ locale, ((run (fun _ => limited limit reason) ⟨chosen, []⟩ steps).map Prod.fst)[i]? =
      some (step.answer locale
        (verdict limit reason ((steps.take (i + 1)).flatMap Step.collected).length)) := by
  have hoffered : (steps.take (i + 1)).flatMap Step.collected =
      (steps.take i).flatMap Step.collected ++ step.collected := by
    rw [List.take_add_one, h, List.flatMap_append]
    simp
  have hkept := @sink_after_limited limit reason chosen [] (steps.take i)
  rw [List.take_nil, List.nil_append] at hkept
  rw [List.getElem?_map, getElem?_run, h, hoffered]
  generalize after (fun _ => limited limit reason) ⟨chosen, []⟩ (steps.take i) = before at hkept ⊢
  rcases before with ⟨chosen', kept⟩
  have hsink : kept = ((steps.take i).flatMap Step.collected).take limit := hkept
  refine ⟨(chosen'.or step.locale?).getD .fallback, ?_⟩
  rw [hsink, Option.map_some, Option.map_some, answer_step_limited chosen' _ hplan]

end Session

/-! ## Sinks that accept the first diagnostics -/

section

variable {σ : Type} {limit : Nat} {reason : String}

/-- The state of a sink that has been given some diagnostics, whether it accepted them or not. -/
def Sink.given (sink : Sink σ) (start : σ) (ds : List Diagnostic) : σ :=
  ds.foldl (fun s d => ((sink.emit d).carryOut s).2) start

/-- A sink accepts the first diagnostics that it is given from a state on, and it rejects every
later one for one and the same reason. -/
def Sink.AcceptsFirst (sink : Sink σ) (limit : Nat) (reason : String) (start : σ) : Prop :=
  ∀ ds d, ((sink.emit d).carryOut (sink.given start ds)).1 =
    if ds.length < limit then .ok () else .error ⟨reason⟩

/-- The diagnostics that were accepted, by a record of the calls. -/
def accepted (record : List (Call σ)) : List Diagnostic :=
  (record.filter (·.answer.isOk)).map (·.diagnostic)

theorem Sink.given_concat (sink : Sink σ) (start : σ) (ds : List Diagnostic) (d : Diagnostic) :
    sink.given start (ds ++ [d]) = ((sink.emit d).carryOut (sink.given start ds)).2 := by
  rw [given, List.foldl_concat]
  rfl

theorem accepted_concat (record : List (Call σ)) (call : Call σ) :
    accepted (record ++ [call]) =
      accepted record ++ if call.answer.isOk then [call.diagnostic] else [] := by
  rw [accepted, List.filter_append, List.map_append, List.filter_singleton]
  cases call.answer.isOk <;> rfl

/-- The states that belong together: of a sink with a record of its calls, and of the sink that
keeps what this one has accepted. -/
def Sink.Keeps (sink : Sink σ) (limit : Nat) (start : σ) (state : σ × List (Call σ))
    (kept : List Diagnostic) : Prop :=
  state.1 = sink.given start (state.2.map (·.diagnostic)) ∧ kept = accepted state.2 ∧
    kept = (state.2.map (·.diagnostic)).take limit

theorem Sink.AcceptsFirst.mimics {sink : Sink σ} {start : σ}
    (h : sink.AcceptsFirst limit reason start) :
    sink.recorded.Mimics (sink.Keeps limit start) (Collection.limited limit reason) := by
  intro d state kept hkeeps
  rcases state with ⟨s, record⟩
  have hs : s = sink.given start (record.map (·.diagnostic)) := hkeeps.1
  have haccepted : kept = accepted record := hkeeps.2.1
  have hkept : kept = (record.map (·.diagnostic)).take limit := hkeeps.2.2
  have hanswer : ((sink.emit d).carryOut s).1 =
      if record.length < limit then .ok () else .error ⟨reason⟩ := by
    rw [hs, h, List.length_map]
  have hrecord : (record ++ [(⟨s, d, ((sink.emit d).carryOut s).1⟩ : Call σ)]).map
      (·.diagnostic) = record.map (·.diagnostic) ++ [d] := List.map_append
  have hlength : (record.map (·.diagnostic) ++ [d]).length = record.length + 1 := by
    rw [List.length_append, List.length_map]
    rfl
  show ((sink.emit d).carryOut s).1 = (((Collection.limited limit reason).emit d).carryOut kept).1 ∧
    sink.Keeps limit start
      (((sink.emit d).carryOut s).2, record ++ [⟨s, d, ((sink.emit d).carryOut s).1⟩])
      (((Collection.limited limit reason).emit d).carryOut kept).2
  rw [hkept, Collection.carryOut_limited, Collection.verdict, hlength]
  refine ⟨hanswer, ?_, ?_, ?_⟩
  · show ((sink.emit d).carryOut s).2 = _
    rw [hrecord, Sink.given_concat, ← hs]
  · show (record.map (·.diagnostic) ++ [d]).take limit = _
    rw [accepted_concat, ← haccepted, hkept, hanswer]
    by_cases hroom : record.length < limit
    · rw [if_pos hroom, List.take_of_length_le (by omega),
        List.take_of_length_le (by rw [List.length_map]; omega)]
      rfl
    · rw [if_neg hroom, List.take_append_of_le_length (by rw [List.length_map]; omega)]
      exact (List.append_nil _).symm
  · exact congrArg (List.take limit) hrecord.symm

/-- The sink that keeps what it accepts is one of them. -/
theorem Collection.acceptsFirst_limited (limit : Nat) (reason : String) :
    (limited limit reason).AcceptsFirst limit reason [] := by
  have hgiven : ∀ ds, (limited limit reason).given [] ds = ds.take limit := by
    intro ds
    induction ds using List.reverseRecOn with
    | nil => exact List.take_nil.symm
    | append_singleton ds d ih => rw [Sink.given_concat, ih, carryOut_limited]
  intro ds d
  rw [hgiven, carryOut_limited, verdict, List.length_append]
  rfl

end

namespace Session

open Collection

section

variable {σ : Type} {sink : Sink σ} {limit : Nat} {reason : String} {start : σ}

/-- What a sink that accepts the first diagnostics has accepted in a session. -/
theorem accepted_after (h : sink.AcceptsFirst limit reason start) (chosen : Option Locale)
    (steps : List Step) :
    accepted (after (fun _ => sink.recorded) ⟨chosen, start, []⟩ steps).sink.2 =
      (steps.flatMap Step.collected).take limit := by
  have hstart : sink.Keeps limit start (start, []) [] := ⟨rfl, rfl, List.take_nil.symm⟩
  have hkeeps := after_related (fun _ : Locale => h.mimics.related)
    (s := ⟨chosen, start, []⟩) (t := ⟨chosen, []⟩) rfl hstart steps
  have hkept := @sink_after_limited limit reason chosen [] steps
  rw [List.take_nil, List.nil_append] at hkept
  rw [← hkept]
  exact hkeeps.2.1.symm

/-- Its answers are those of the sink that keeps what it has accepted. -/
theorem answers_run (h : sink.AcceptsFirst limit reason start) (chosen : Option Locale)
    (steps : List Step) :
    (run (fun _ => sink) ⟨chosen, start⟩ steps).map Prod.fst =
      (run (fun _ => limited limit reason) ⟨chosen, []⟩ steps).map Prod.fst := by
  have hstart : sink.Keeps limit start (start, []) [] := ⟨rfl, rfl, List.take_nil.symm⟩
  have hplain := answers_eq_of_mimics (fun _ : Locale => sink.mimics_recorded)
    (s := ⟨chosen, start, []⟩) (t := ⟨chosen, start⟩) rfl rfl steps
  have hlimited := answers_eq_of_mimics (fun _ : Locale => h.mimics)
    (s := ⟨chosen, start, []⟩) (t := ⟨chosen, []⟩) rfl hstart steps
  rw [← hplain, hlimited]

end

/-- Reports, checks and single diagnostics share a sink that accepts a fixed number of diagnostics.
At the end it has accepted the first of all that the steps would hand to a sink that keeps
everything, in their order. A step is accepted if there was room for everything up to its own last
diagnostic, and then a run comes to the outcome of its check; any other step is rejected with the
reason of the sink. What is accepted only ever grows at its end. -/
theorem limited_session_keeps_first {σ : Type} {sink : Sink σ} {limit : Nat} {reason : String}
    {start : σ} (h : sink.AcceptsFirst limit reason start) (chosen : Option Locale)
    (stretches : List Stretch) :
    let session : Session σ := ⟨chosen, start⟩
    let steps := stretches.flatMap Stretch.steps
    let offered := fun n => (steps.take n).flatMap Step.collected
    let recorded := fun n =>
      (after (fun _ => sink.recorded) ⟨chosen, start, []⟩ (steps.take n)).sink
    (∃ answers, playAll (fun _ => sink) session stretches =
        (answers, after (fun _ => sink) session steps) ∧
      answers.length = steps.length ∧
      (∀ (i : Nat) args,
        steps[i]? = some (.runReport args) ∨ steps[i]? = some (.checkWithReport args) →
        answers[i]? = some (.outcome
          (if (offered (i + 1)).length ≤ limit then .ok args.check else .error ⟨reason⟩))) ∧
      ∀ (i : Nat) d, steps[i]? = some (.emit d) →
        answers[i]? = some (.emitted
          (if (offered (i + 1)).length ≤ limit then .ok () else .error ⟨reason⟩))) ∧
    (∀ n, (recorded n).1 = (after (fun _ => sink) session (steps.take n)).sink ∧
      accepted (recorded n).2 = (offered n).take limit) ∧
    (∀ m n, m ≤ n → accepted (recorded m).2 <+: accepted (recorded n).2) ∧
    (∀ args, (Step.runReport args).collected.length = 4) ∧
    (∀ args, (Step.checkWithReport args).collected.length = 2) ∧
    ∀ d, (Step.emit d).collected = [d] := by
  intro session steps offered recorded
  have haccepted : ∀ n, accepted (recorded n).2 = (offered n).take limit := by
    intro n
    exact accepted_after h chosen (steps.take n)
  refine ⟨⟨(run (fun _ => sink) session steps).map Prod.fst,
    playAll_eq (fun _ => sink) session stretches, ?_, ?_, ?_⟩, ?_, ?_, ?_, ?_, ?_⟩
  · rw [List.length_map, length_run]
  · intro i args hstep
    rw [← map_verdict, answers_run h]
    rcases hstep with hstep | hstep
    · have hplan : (Step.runReport args).plan ≠ [] := List.cons_ne_nil _ _
      obtain ⟨locale, hanswer⟩ := answer_run_limited limit reason chosen hstep hplan
      exact hanswer
    · have hplan : (Step.checkWithReport args).plan ≠ [] := List.cons_ne_nil _ _
      obtain ⟨locale, hanswer⟩ := answer_run_limited limit reason chosen hstep hplan
      exact hanswer
  · intro i d hstep
    rw [answers_run h]
    have hplan : (Step.emit d).plan ≠ [] := List.cons_ne_nil _ _
    obtain ⟨locale, hanswer⟩ := answer_run_limited limit reason chosen hstep hplan
    exact hanswer
  · intro n
    exact ⟨after_recorded (fun _ => sink) session [] (steps.take n), haccepted n⟩
  · intro m n hle
    have hfront : steps.take m <+: steps.take n := List.take_prefix_take_left hle
    rw [haccepted, haccepted]
    exact (hfront.flatMap _).take limit
  · intro args
    rw [Step.collected_eq_plan]
    rfl
  · intro args
    rw [Step.collected_eq_plan]
    rfl
  · intro d
    exact Step.collected_eq_plan _

/-- Of seven places a report takes four and the first of two checks two. The second check finds room
for its first diagnostic only, and the diagnostic behind it finds none. -/
theorem limited_session_keeps_first_seven :
    let sink := limited 7 "closed"
    let stretches : List Stretch := [.single (.runReport ⟨["hello"]⟩),
      .checker [⟨["a", "b"]⟩, ⟨[]⟩], .single (.emit (.status .success))]
    sink.AcceptsFirst 7 "closed" [] ∧
    ∃ answers kept, playAll (fun _ => sink) ⟨none, []⟩ stretches = (answers, kept) ∧
      answers[0]? = some (.outcome (.ok .success)) ∧
      answers[1]? = some (.outcome (.ok .failure)) ∧
      answers[2]? = some (.outcome (.error ⟨"closed"⟩)) ∧
      answers[3]? = some (.emitted (.error ⟨"closed"⟩)) ∧
      accepted (after (fun _ => sink.recorded) ⟨none, [], []⟩
          ((stretches.flatMap Stretch.steps).take 4)).sink.2 =
        [.scriptArguments "hello", .checkArguments "hello", .functionReturn 0,
          .status .success, .checkArguments "a b", .functionReturn 1, .checkArguments ""] := by
  intro sink stretches
  have hfirst : sink.AcceptsFirst 7 "closed" [] := acceptsFirst_limited 7 "closed"
  obtain ⟨⟨answers, hplay, -, hruns, hemits⟩, hkept, -⟩ :=
    limited_session_keeps_first hfirst none stretches
  refine ⟨hfirst, answers, _, hplay, ?_, ?_, ?_, ?_, ?_⟩
  · exact hruns 0 ⟨["hello"]⟩ (.inl rfl)
  · exact hruns 1 ⟨["a", "b"]⟩ (.inr rfl)
  · exact hruns 2 ⟨[]⟩ (.inr rfl)
  · exact hemits 3 (.status .success) rfl
  · exact (hkept 4).2

end Session

end GreetingCheck
