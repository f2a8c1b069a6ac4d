import Mathlib.Data.List.Forall2
import GreetingCheck.Proofs.Report.Handover
import GreetingCheck.Session

/-!
# What a session does to its sink

A step of a session hands over a list of diagnostics, its plan, in the locale of the moment, and
does nothing else to the sink; its answer follows from what comes of that (`step_eq`). A step of a
run meets the session that the steps before it have left behind (`getElem?_run`).

Two sinks that answer alike, and whose states stay related while they do, are still related after
any session (`after_related`), and if they also reject for the same reasons, the sessions answer
alike (`run_of_mimics`).
-/

namespace GreetingCheck

variable {σ τ : Type}

namespace Step

/-- The diagnostics that a step hands over. -/
def plan : Step → List Diagnostic
  | .runReport args => args.reportPlan
  | .checkWithReport args => args.checkPlan
  | .emit d => [d]
  | _ => []

/-- The locale that a step chooses, if it chooses one. -/
def locale? : Step → Option Locale
  | .setLocale locale => some locale
  | _ => none

/-- What a step answers in a locale, by what has come of handing over its plan. -/
def answer (locale : Locale) (handed : Except Rejection Unit) : Step → Answer
  | .runReport args => .outcome (handed.map fun _ => args.check)
  | .checkWithReport args => .outcome (handed.map fun _ => args.check)
  | .emit _ => .emitted handed
  | .render d => .text (Message.ofDiagnostic locale d)
  | .setLocale _ => .locale locale
  | .currentLocale => .locale locale
  | .translate key args => .text (Catalog.translate locale key args)
  | .writeFailed stream error => .text (Message.writeFailed locale stream error)

end Step

namespace Session

/-! ## Single steps -/

private theorem carryOut_here (sink : Locale → Sink σ) (s : Session σ) (plan : List Diagnostic) :
    ((step.here sink s).emitAll plan).carryOut s =
      ((((sink s.locale).emitAll plan).carryOut s.sink).1,
        { s with sink := (((sink s.locale).emitAll plan).carryOut s.sink).2 }) := by
  rw [step.here, Sink.emitAll_within, Emission.carryOut_within]
  rfl

theorem choose_eq (s : Session σ) (locale : Locale) :
    s.choose locale = { s with chosen := s.chosen.or (some locale) } := by
  rcases s with ⟨_ | _, _⟩ <;> rfl

/-- A step hands over its plan, and answers in the locale that has been chosen by then. -/
theorem step_eq (sink : Locale → Sink σ) (s : Session σ) (step : Step) :
    s.step sink step =
      let handed := ((sink s.locale).emitAll step.plan).carryOut s.sink
      let s' : Session σ := ⟨s.chosen.or step.locale?, handed.2⟩
      (step.answer s'.locale handed.1, s') := by
  cases step with
  | runReport args =>
    rw [Session.step, runReport_eq, Emission.carryOut_then_pure, carryOut_here]
    simp only [Step.locale?, Option.or_none]
    rfl
  | checkWithReport args =>
    rw [Session.step, checkWithReport_eq, Emission.carryOut_then_pure, carryOut_here]
    simp only [Step.locale?, Option.or_none]
    rfl
  | emit d =>
    rw [Session.step, ← Sink.emitAll_singleton, carryOut_here]
    simp only [Step.locale?, Option.or_none]
    rfl
  | setLocale locale =>
    rw [Session.step, choose_eq]
    rfl
  | _ =>
    simp only [Step.locale?, Option.or_none]
    rfl

theorem sink_step (sink : Locale → Sink σ) (s : Session σ) (step : Step) :
    (s.step sink step).2.sink = (((sink s.locale).emitAll step.plan).carryOut s.sink).2 := by
  rw [step_eq]

/-- The locale of a session is chosen in the same way whatever its sink is. -/
theorem chosen_step (sink : Locale → Sink σ) (s : Session σ) (step : Step) :
    (s.step sink step).2.chosen = s.chosen.or step.locale? := by
  rw [step_eq]

/-! ## Whole sessions -/

/-- The session as it is after some steps. -/
def after (sink : Locale → Sink σ) (s : Session σ) (steps : List Step) : Session σ :=
  steps.foldl (fun s step => (s.step sink step).2) s

@[simp] theorem after_nil (sink : Locale → Sink σ) (s : Session σ) : after sink s [] = s := rfl

@[simp] theorem after_cons (sink : Locale → Sink σ) (s : Session σ) (first : Step)
    (rest : List Step) :
    after sink s (first :: rest) = after sink (s.step sink first).2 rest := rfl

theorem after_append (sink : Locale → Sink σ) (s : Session σ) (front back : List Step) :
    after sink s (front ++ back) = after sink (after sink s front) back :=
  List.foldl_append

/-- One step more is carried out in the session that the others have left behind. -/
theorem after_take_succ (sink : Locale → Sink σ) (s : Session σ) {steps : List Step} {i : Nat}
    {step : Step} (h : steps[i]? = some step) :
    after sink s (steps.take (i + 1)) = ((after sink s (steps.take i)).step sink step).2 := by
  rw [List.take_add_one, h, after_append]
  rfl

@[simp] theorem length_run (sink : Locale → Sink σ) (s : Session σ) (steps : List Step) :
    (run sink s steps).length = steps.length := by
  induction steps generalizing s with
  | nil => rfl
  | cons first rest ih =>
    rw [run, List.length_cons, ih, List.length_cons]

/-- Each step of a run meets the session that the steps before it have left behind. -/
theorem getElem?_run (sink : Locale → Sink σ) (s : Session σ) (steps : List Step) (i : Nat) :
    (run sink s steps)[i]? =
      steps[i]?.map fun step => (after sink s (steps.take i)).step sink step := by
  induction steps generalizing s i with
  | nil => rfl
  | cons first rest ih =>
    cases i with
    | zero => rfl
    | succ i => exact ih (s.step sink first).2 i

end Session

/-! ## Related sinks -/

/-- Two sinks that accept the same diagnostics as long as their states are related, and keep them
related. -/
def Sink.Related (R : σ → τ → Prop) (left : Sink σ) (right : Sink τ) : Prop :=
  ∀ d s t, R s t →
    ((left.emit d).carryOut s).1.isOk = ((right.emit d).carryOut t).1.isOk ∧
      R ((left.emit d).carryOut s).2 ((right.emit d).carryOut t).2

/-- Related sinks that are handed the same list accept or reject it together, and stay related. -/
theorem Sink.Related.emitAll {R : σ → τ → Prop} {left : Sink σ} {right : Sink τ}
    (h : left.Related R right) {s : σ} {t : τ} (hstates : R s t) (plan : List Diagnostic) :
    ((left.emitAll plan).carryOut s).1.isOk = ((right.emitAll plan).carryOut t).1.isOk ∧
      R ((left.emitAll plan).carryOut s).2 ((right.emitAll plan).carryOut t).2 := by
  induction plan generalizing s t with
  | nil => exact ⟨rfl, hstates⟩
  | cons d rest ih =>
    obtain ⟨hanswers, hafter⟩ := h d s t hstates
    -- both sinks reject and both runs end here, or both accept and both runs go on
    rcases hs : (left.emit d).carryOut s with ⟨_ | _, s'⟩ <;>
      rcases ht : (right.emit d).carryOut t with ⟨_ | _, t'⟩ <;>
      rw [hs, ht] at hanswers hafter
    · rw [Sink.emitAll, Sink.emitAll, Emission.carryOut_bind_error hs,
        Emission.carryOut_bind_error ht]
      exact ⟨rfl, hafter⟩
    · cases hanswers
    · cases hanswers
    · rw [Sink.emitAll, Sink.emitAll, Emission.carryOut_bind_ok hs, Emission.carryOut_bind_ok ht]
      exact ih hafter

/-- Two related sinks that also reject for the same reasons. -/
def Sink.Mimics (R : σ → τ → Prop) (left : Sink σ) (right : Sink τ) : Prop :=
  ∀ d s t, R s t →
    ((left.emit d).carryOut s).1 = ((right.emit d).carryOut t).1 ∧
      R ((left.emit d).carryOut s).2 ((right.emit d).carryOut t).2

theorem Sink.Mimics.related {R : σ → τ → Prop} {left : Sink σ} {right : Sink τ}
    (h : left.Mimics R right) : left.Related R right := by
  intro d s t hst
  obtain ⟨hanswers, hafter⟩ := h d s t hst
  exact ⟨congrArg Except.isOk hanswers, hafter⟩

theorem Sink.Mimics.emitAll {R : σ → τ → Prop} {left : Sink σ} {right : Sink τ}
    (h : left.Mimics R right) {s : σ} {t : τ} (hstates : R s t) (plan : List Diagnostic) :
    ((left.emitAll plan).carryOut s).1 = ((right.emitAll plan).carryOut t).1 := by
  induction plan generalizing s t with
  | nil => rfl
  | cons d rest ih =>
    obtain ⟨hanswers, hafter⟩ := h d s t hstates
    rcases hs : (left.emit d).carryOut s with ⟨answer, s'⟩
    rcases ht : (right.emit d).carryOut t with ⟨answer', t'⟩
    rw [hs, ht] at hanswers hafter
    have hsame : answer = answer' := hanswers
    subst hsame
    cases answer with
    | error rejection =>
      rw [Sink.emitAll, Sink.emitAll, Emission.carryOut_bind_error hs,
        Emission.carryOut_bind_error ht]
    | ok =>
      rw [Sink.emitAll, Sink.emitAll, Emission.carryOut_bind_ok hs, Emission.carryOut_bind_ok ht]
      exact ih hafter

/-- The record of its calls makes no difference to a sink. -/
theorem Sink.mimics_recorded (sink : Sink σ) : sink.recorded.Mimics (fun t s => t.1 = s) sink := by
  intro d t s hst
  subst hst
  exact ⟨rfl, rfl⟩

namespace Session

theorem after_related {R : σ → τ → Prop} {left : Locale → Sink σ} {right : Locale → Sink τ}
    (h : ∀ locale, (left locale).Related R (right locale)) {s : Session σ} {t : Session τ}
    (hchosen : s.chosen = t.chosen) (hsink : R s.sink t.sink) (steps : List Step) :
    R (after left s steps).sink (after right t steps).sink := by
  induction steps generalizing s t with
  | nil => exact hsink
  | cons first rest ih =>
    rw [after, after, List.foldl_cons, List.foldl_cons]
    refine ih ?_ ?_
    · rw [chosen_step, chosen_step, hchosen]
    · rw [sink_step, sink_step, locale, locale, hchosen]
      exact ((h _).emitAll hsink first.plan).2

/-- Sessions over sinks that mimic each other answer alike, step by step, and leave related sinks
behind. -/
theorem run_of_mimics {R : σ → τ → Prop} {left : Locale → Sink σ} {right : Locale → Sink τ}
    (h : ∀ locale, (left locale).Mimics R (right locale)) {s : Session σ} {t : Session τ}
    (hchosen : s.chosen = t.chosen) (hsink : R s.sink t.sink) (steps : List Step) :
    List.Forall₂ (fun x y => x.1 = y.1 ∧ x.2.chosen = y.2.chosen ∧ R x.2.sink y.2.sink)
      (run left s steps) (run right t steps) := by
  induction steps generalizing s t with
  | nil => exact .nil
  | cons first rest ih =>
    have hlocale : s.locale = t.locale := by rw [locale, locale, hchosen]
    have hhanded := (h s.locale).emitAll hsink first.plan
    have hafter := ((h s.locale).related.emitAll hsink first.plan).2
    rw [hlocale] at hhanded hafter
    have hfirst : (s.step left first).1 = (t.step right first).1 := by
      rw [step_eq, step_eq, hlocale]
      simp only [hchosen, hhanded]
      rfl
    have hchosen' : (s.step left first).2.chosen = (t.step right first).2.chosen := by
      rw [chosen_step, chosen_step, hchosen]
    have hsink' : R (s.step left first).2.sink (t.step right first).2.sink := by
      rw [sink_step, sink_step, hlocale]
      exact hafter
    exact .cons ⟨hfirst, hchosen', hsink'⟩ (ih hchosen' hsink')

theorem answers_eq_of_mimics {R : σ → τ → Prop} {left : Locale → Sink σ} {right : Locale → Sink τ}
    (h : ∀ locale, (left locale).Mimics R (right locale)) {s : Session σ} {t : Session τ}
    (hchosen : s.chosen = t.chosen) (hsink : R s.sink t.sink) (steps : List Step) :
    (run left s steps).map Prod.fst = (run right t steps).map Prod.fst := by
  rw [← List.forall₂_eq_eq_eq, List.forall₂_map_left_iff, List.forall₂_map_right_iff]
  exact (run_of_mimics h hchosen hsink steps).imp fun _ _ hsame => hsame.1

/-- What every call of a sink preserves, whole sessions preserve. -/
theorem after_invariant {P : σ → Prop} {sink : Locale → Sink σ}
    (h : ∀ locale d s, P s → P (((sink locale).emit d).carryOut s).2) {s : Session σ}
    (hs : P s.sink) (steps : List Step) : P (after sink s steps).sink := by
  have hrelated (locale : Locale) :
      (sink locale).Related (fun s t => s = t ∧ P s) (sink locale) := by
    intro d s t hst
    rcases hst with ⟨rfl, hs⟩
    exact ⟨rfl, rfl, h locale d s hs⟩
  exact (after_related hrelated rfl ⟨rfl, hs⟩ steps).2

/-- A session over a sink that keeps a record is the session over the sink itself. -/
theorem after_recorded (sink : Locale → Sink σ) (s : Session σ) (record : List (Call σ))
    (steps : List Step) :
    (after (fun locale => (sink locale).recorded) ⟨s.chosen, s.sink, record⟩ steps).sink.1 =
      (after sink s steps).sink := by
  have hrelated (locale : Locale) := (sink locale).mimics_recorded.related
  exact after_related hrelated rfl rfl steps

end Session

end GreetingCheck
