import Mathlib.Data.List.Forall2
import GreetingCheck.Collection
import GreetingCheck.Proofs.Session
import GreetingCheck.Proofs.Stream.Lines

/-!
# The locale of a session

The locale of a session can be chosen once, at any of its steps. `locale_after` says which one it
is: the first that a step asks for, and English until then. The rest is about what the choice
reaches.

It reaches the words, and those of a report only while they are being written: a line of text is in
the locale in which it was emitted, and the bytes stored so far stay in front of everything that
comes after them (`rendered_emitAll`, `stored_begins`).

It does not reach the sinks whose contents are no words. The locale decides there about the reason
of a rejection at most (`Speechless`), and so the steps that choose one can be left out of a session
without any other difference than in what is said (`shown_filter`).
-/

namespace GreetingCheck

variable {σ : Type}

/-! ## The locale chosen first -/

namespace Session

/-- The locale that some steps choose: the first that one of them asks for, and English if none
does. -/
def latched (steps : List Step) : Locale := (steps.findSome? Step.locale?).getD .english

theorem chosen_after (sink : Locale → Sink σ) (s : Session σ) (steps : List Step) :
    (after sink s steps).chosen = s.chosen.or (steps.findSome? Step.locale?) := by
  induction steps generalizing s with
  | nil => exact Option.or_none.symm
  | cons first rest ih =>
    rw [after_cons, ih, chosen_step, Option.or_assoc, List.findSome?_cons]
    cases first.locale? <;> rfl

theorem locale_after (sink : Locale → Sink σ) (state : σ) (steps : List Step) :
    (after sink ⟨none, state⟩ steps).locale = latched steps := by
  rw [locale, chosen_after, Option.none_or]
  rfl

end Session

/-- What a step that chooses no locale comes to: its answer, and what becomes of the sink. -/
def Step.inLocale (sink : Sink σ) (locale : Locale) (state : σ) : Step → Answer × σ
  | .runReport args =>
    let (result, state) := (GreetingCheck.runReport sink args).carryOut state
    (.outcome result, state)
  | .checkWithReport args =>
    let (result, state) := (GreetingCheck.checkWithReport sink args).carryOut state
    (.outcome result, state)
  | .emit d =>
    let (result, state) := (sink.emit d).carryOut state
    (.emitted result, state)
  | .render d => (.text (Message.ofDiagnostic locale d), state)
  | .setLocale _ => (.locale locale, state)
  | .currentLocale => (.locale locale, state)
  | .translate key args => (.text (Catalog.translate locale key args), state)
  | .writeFailed stream error => (.text (Message.writeFailed locale stream error), state)

/-- A step hands over its plan, and everything else that it comes to follows from that. -/
theorem Step.inLocale_eq (sink : Sink σ) (locale : Locale) (state : σ) (step : Step) :
    step.inLocale sink locale state =
      (step.answer locale ((sink.emitAll step.plan).carryOut state).1,
        ((sink.emitAll step.plan).carryOut state).2) := by
  cases step with
  | runReport args =>
    rw [inLocale, runReport_eq, Emission.carryOut_then_pure]
    rfl
  | checkWithReport args =>
    rw [inLocale, checkWithReport_eq, Emission.carryOut_then_pure]
    rfl
  | emit d =>
    rw [inLocale, ← Sink.emitAll_singleton]
    rfl
  | _ => rfl

/-! ## Lines of text -/

namespace Lines

variable {faults : Faults} {locale : Locale} {stream : String}

/-- Some bytes are what a call of the sink of text lines has added in a locale: a beginning of the
line in that locale, and the whole line if the call was accepted. -/
structure Rendered (locale : Locale) (call : Call Writer) (added : List UInt8) : Prop where
  begins : added <+: ended (Message.ofDiagnostic locale call.diagnostic)
  whole : call.answer = .ok () → added = ended (Message.ofDiagnostic locale call.diagnostic)

/-- A line and its end are written in two pieces, the second only behind the whole of the first. -/
theorem stored_putLine (faults : Faults) (words : String) (w : Writer) :
    ∃ added, ((putLine (.plain faults) words).carryOut w).2.stored = w.stored ++ added ∧
      added <+: ended words ∧
      (((putLine (.plain faults) words).carryOut w).1 = .ok () → added = ended words) := by
  obtain ⟨taken, left, hwords, hwrote⟩ :=
    Writer.wrote_writeAll faults (Text.Utf8.encode words.toList) w
  rw [putLine, Output.carryOut_bind, Outlet.carryOut_put_plain, ended, hwords, List.append_assoc]
  rw [hwords] at hwrote
  rcases hfirst : w.writeAll faults (taken ++ left) with ⟨error | _, w₁⟩
  · rw [hfirst] at hwrote
    refine ⟨taken, hwrote.stored, List.prefix_append _ _, ?_⟩
    intro hok
    cases hok
  · rw [hfirst] at hwrote
    have hleft : left = [] := hwrote.succeeds.1 rfl
    obtain ⟨taken', left', hend, hwrote'⟩ := Writer.wrote_writeAll faults [newline] w₁
    have hstored : (w₁.writeAll faults [newline]).2.stored = w.stored ++ (taken ++ taken') := by
      rw [hwrote'.stored, hwrote.stored, List.append_assoc]
    refine ⟨taken ++ taken', hstored, ?_, ?_⟩
    · rw [hleft, hend, List.nil_append, List.prefix_append_right_inj]
      exact List.prefix_append _ _
    · intro hok
      rw [hleft, hend, hwrote'.succeeds.1 hok, List.append_nil, List.nil_append]

theorem rendered_emit (d : Diagnostic) (w : Writer) :
    ∃ added, (((text locale stream faults).emit d).carryOut w).2.stored = w.stored ++ added ∧
      Rendered locale ⟨w, d, (((text locale stream faults).emit d).carryOut w).1⟩ added := by
  obtain ⟨added, hstored, hbegins, hwhole⟩ :=
    stored_putLine faults (Message.ofDiagnostic locale d) w
  have hemit : ((text locale stream faults).emit d).carryOut w =
      (reported locale stream do
        putLine (.plain faults) (Message.ofDiagnostic locale d)
        Output.flush faults).carryOut w := rfl
  rw [hemit, carryOut_reported, Output.carryOut_bind]
  rcases hline : (putLine (.plain faults) (Message.ofDiagnostic locale d)).carryOut w with ⟨error | _, w₁⟩
  · rw [hline] at hstored hwhole
    refine ⟨added, hstored, hbegins, ?_⟩
    intro hok
    cases hok
  · -- the flush stores nothing, and it may be what a whole line fails with
    rw [hline] at hstored hwhole
    refine ⟨added, ?_, hbegins, fun _ => hwhole rfl⟩
    show (w₁.flush faults).2.stored = w.stored ++ added
    rw [Writer.stored_flush, hstored]

/-- The calls of a handover add their lines one behind the other. -/
theorem rendered_emitAll (plan : List Diagnostic) (w : Writer) :
    ∃ added : List (List UInt8),
      (((text locale stream faults).emitAll plan).carryOut w).2.stored =
        w.stored ++ added.flatten ∧
      List.Forall₂ (Rendered locale) ((text locale stream faults).calls plan w) added := by
  induction plan generalizing w with
  | nil => exact ⟨[], (List.append_nil _).symm, .nil⟩
  | cons d rest ih =>
    obtain ⟨first, hfirst, hrendered⟩ :=
      @rendered_emit faults locale stream d w
    rcases hemit : ((text locale stream faults).emit d).carryOut w with ⟨rejection | _, w₁⟩
    · rw [hemit] at hfirst hrendered
      refine ⟨[first], ?_, ?_⟩
      · rw [Sink.emitAll, Emission.carryOut_bind_error hemit, List.flatten_singleton]
        exact hfirst
      · rw [Sink.calls, hemit]
        exact .cons hrendered .nil
    · rw [hemit] at hfirst hrendered
      obtain ⟨later, hlater, hrendered'⟩ := ih w₁
      refine ⟨first :: later, ?_, ?_⟩
      · rw [Sink.emitAll, Emission.carryOut_bind_ok hemit, hlater, hfirst, List.flatten_cons,
          List.append_assoc]
      · rw [Sink.calls, hemit]
        exact .cons hrendered hrendered'

end Lines

/-! ## What the locale has no part in -/

/-- What of an answer is no matter of words: whether something was accepted, and the outcome of a
run. -/
inductive Gist
  | outcome (result : Option Outcome)
  | emitted (accepted : Bool)
  | said

/-- The gist of an answer. -/
def Answer.gist : Answer → Gist
  | .outcome result => .outcome result.toOption
  | .emitted result => .emitted result.isOk
  | .text _ => .said
  | .locale _ => .said

/-- The gist of an answer is the same in every locale, and for every reason of a rejection. -/
theorem Step.gist_answer (step : Step) (locale locale' : Locale)
    {handed handed' : Except Rejection Unit} (h : handed.isOk = handed'.isOk) :
    (step.answer locale handed).gist = (step.answer locale' handed').gist := by
  cases step with
  | emit d => exact congrArg Gist.emitted h
  | runReport args | checkWithReport args =>
    rcases handed with _ | _ <;> rcases handed' with _ | _
    all_goals
      first
        | rfl
        | cases h
  | _ => rfl

/-- A sink for which the locale decides about the reasons of its rejections at most. -/
def Sink.Speechless (sink : Locale → Sink σ) : Prop :=
  ∀ locale locale', (sink locale).Related (· = ·) (sink locale')

theorem Sink.speechless_const (sink : Sink σ) : Speechless fun _ => sink := by
  intro _ _ d s t hst
  rw [hst]
  exact ⟨rfl, rfl⟩

theorem Lines.speechless_json (stream : String) (faults : Faults) :
    Sink.Speechless fun locale => json locale stream faults := by
  intro locale locale' d s t hst
  have hemit (locale : Locale) : ((json locale stream faults).emit d).carryOut s =
      (reported locale stream do
        Output.put faults (Text.Utf8.encode d.encode.toList ++ [newline])
        Output.flush faults).carryOut s := rfl
  subst hst
  simp only [hemit, carryOut_reported, and_true]
  cases ((do
    Output.put faults (Text.Utf8.encode d.encode.toList ++ [newline])
    Output.flush faults : Output Unit).carryOut s).1 <;> rfl

namespace Session

/-- A session without the steps that choose a locale. -/
def withoutChoices (steps : List Step) : List Step := steps.filter (·.locale?.isNone)

/-- What the steps of a session that choose no locale come to: each of them with the gist of its
answer and with the sink that it leaves behind. -/
def shown (sink : Locale → Sink σ) (s : Session σ) (steps : List Step) : List (Step × Gist × σ) :=
  ((steps.zip (run sink s steps)).filter (·.1.locale?.isNone)).map
    fun (step, answer, s') => (step, answer.gist, s'.sink)

/-- A step that chooses a locale leaves the sink alone. -/
theorem step_of_choice (sink : Locale → Sink σ) (s : Session σ) {step : Step}
    (h : step.locale?.isNone = false) : (s.step sink step).2.sink = s.sink := by
  cases step with
  | setLocale locale => rfl
  | _ => cases h

theorem shown_cons_of_choice (sink : Locale → Sink σ) (s : Session σ) {first : Step}
    (h : first.locale?.isNone = false) (rest : List Step) :
    shown sink s (first :: rest) = shown sink (s.step sink first).2 rest := by
  have hneg : ¬first.locale?.isNone = true := Bool.eq_false_iff.1 h
  rw [shown, run, List.zip_cons_cons, List.filter_cons, if_neg hneg]
  rfl

theorem shown_cons_of_other (sink : Locale → Sink σ) (s : Session σ) {first : Step}
    (h : first.locale?.isNone = true) (rest : List Step) :
    shown sink s (first :: rest) =
      (first, (s.step sink first).1.gist, (s.step sink first).2.sink) ::
        shown sink (s.step sink first).2 rest := by
  rw [shown, run, List.zip_cons_cons, List.filter_cons, if_pos h]
  rfl

/-- The steps that choose a locale can be left out of a session over a sink without words. -/
theorem shown_filter {sink : Locale → Sink σ} (h : Sink.Speechless sink)
    (chosen chosen' : Option Locale) (state : σ) (steps : List Step) :
    shown sink ⟨chosen, state⟩ steps = shown sink ⟨chosen', state⟩ (withoutChoices steps) := by
  induction steps generalizing chosen chosen' state with
  | nil => rfl
  | cons first rest ih =>
    rcases hchoice : first.locale?.isNone with _ | _
    · have hstate := step_of_choice sink ⟨chosen, state⟩ hchoice
      rcases hfirst : ((⟨chosen, state⟩ : Session σ).step sink first).2 with ⟨later, state'⟩
      rw [hfirst] at hstate
      have hsame : state' = state := hstate
      have hneg : ¬first.locale?.isNone = true := Bool.eq_false_iff.1 hchoice
      rw [shown_cons_of_choice sink _ hchoice, hfirst, withoutChoices, List.filter_cons,
        if_neg hneg, hsame]
      exact ih later chosen' state
    · -- the step meets the same sink in another locale, so it does the same to it
      have hhanded := (h (chosen.getD .fallback) (chosen'.getD .fallback)).emitAll
        (Eq.refl state) first.plan
      have hrest := ih (chosen.or first.locale?) (chosen'.or first.locale?)
        (((sink (chosen'.getD .fallback)).emitAll first.plan).carryOut state).2
      have hgist := first.gist_answer ((chosen.or first.locale?).getD .fallback)
        ((chosen'.or first.locale?).getD .fallback) hhanded.1
      rw [shown_cons_of_other sink _ hchoice, withoutChoices, List.filter_cons, if_pos hchoice,
        shown_cons_of_other sink _ hchoice, step_eq, step_eq]
      simp only [locale, hhanded.2, hgist, hrest]
      rfl

/-! ## Whole sessions -/

/-- The answer to each step of a session is in the locale that the steps before it have chosen, and
so is what it does to the sink. A step that chooses a locale is told the one chosen first. -/
def SpeaksLatched (sink : Locale → Sink σ) (state : σ) (steps : List Step) : Prop :=
  ∀ (i : Nat) step, steps[i]? = some step →
    let before := (after sink ⟨none, state⟩ (steps.take i)).sink
    ∃ answer s', (run sink ⟨none, state⟩ steps)[i]? = some (answer, s') ∧
      (step.locale? = none → (answer, s'.sink) =
        step.inLocale (sink (latched (steps.take i))) (latched (steps.take i)) before) ∧
      ∀ locale, step = .setLocale locale →
        answer = .locale (latched (steps.take (i + 1))) ∧ s'.sink = before

theorem speaksLatched (sink : Locale → Sink σ) (state : σ) (steps : List Step) :
    SpeaksLatched sink state steps := by
  intro i step hstep before
  have hlocale := locale_after sink state (steps.take i)
  have hlater := locale_after sink state (steps.take (i + 1))
  rw [after_take_succ sink _ hstep] at hlater
  refine ⟨_, _, by rw [getElem?_run, hstep, Option.map_some], ?_, ?_⟩
  · intro hnone
    rw [step.inLocale_eq, step_eq, hlocale]
    have hsame : (after sink ⟨none, state⟩ (steps.take i)).chosen.or step.locale? =
        (after sink ⟨none, state⟩ (steps.take i)).chosen := by
      rw [hnone, Option.or_none]
    simp only [hsame]
    rw [← hlocale]
    rfl
  · intro locale hchoice
    subst hchoice
    refine ⟨?_, step_of_choice sink _ rfl⟩
    rw [← hlater]
    rfl

/-- The lines that a step of a session adds are in the locale that the steps before it have
chosen. -/
theorem rendered_step (stream : String) (faults : Faults) (w : Writer) {steps : List Step} {i : Nat}
    {step : Step} (h : steps[i]? = some step) :
    let sink := fun locale => Lines.text locale stream faults
    let before := (after sink ⟨none, w⟩ (steps.take i)).sink
    ∃ added : List (List UInt8),
      (after sink ⟨none, w⟩ (steps.take (i + 1))).sink.stored = before.stored ++ added.flatten ∧
      List.Forall₂ (Lines.Rendered (latched (steps.take i)))
        ((sink (latched (steps.take i))).calls step.plan before) added := by
  intro sink before
  rw [after_take_succ sink _ h, sink_step, locale_after]
  exact Lines.rendered_emitAll step.plan before

/-- What has been stored stays in front of everything that comes later. -/
theorem stored_begins (stream : String) (faults : Faults) (s : Session Writer) (steps : List Step)
    {m n : Nat} (h : m ≤ n) :
    let sink := fun locale => Lines.text locale stream faults
    (after sink s (steps.take m)).sink.stored <+: (after sink s (steps.take n)).sink.stored := by
  intro sink
  have hlater : steps.take n = steps.take m ++ (steps.drop m).take (n - m) := by
    rw [← List.take_add, Nat.add_sub_cancel' h]
  let early := (after sink s (steps.take m)).sink.stored
  have hkeeps : ∀ locale d (w : Writer), early <+: w.stored →
      early <+: (((sink locale).emit d).carryOut w).2.stored := by
    intro locale d w hw
    obtain ⟨added, hstored, -⟩ := @Lines.rendered_emit faults locale stream d w
    show early <+: (((Lines.text locale stream faults).emit d).carryOut w).2.stored
    rw [hstored]
    exact hw.trans (List.prefix_append _ _)
  rw [hlater, after_append]
  exact after_invariant (P := fun w : Writer => early <+: w.stored) hkeeps List.prefix_rfl _

/-- Two sessions that differ in nothing but their choices of a locale show the same. -/
theorem shown_eq_of_withoutChoices {sink : Locale → Sink σ} (h : Sink.Speechless sink) (state : σ)
    {steps steps' : List Step} (hsame : withoutChoices steps = withoutChoices steps') :
    shown sink ⟨none, state⟩ steps = shown sink ⟨none, state⟩ steps' := by
  rw [shown_filter h none none, shown_filter h none none state steps', hsame]

/-- The locale of a session is the one chosen first, and each step before that choice speaks
English. A line of text is in the locale of the step that adds it, and it stays where it is and as
it is.

Over a sink that keeps diagnostics or writes JSON, two sessions that differ in nothing but their
choices of a locale agree in what the other steps come to: what is accepted and what is not, the
outcomes of the runs, and the contents of the sink behind each step. -/
theorem locale_latches_and_stays_out (steps : List Step) :
    (∀ {σ : Type} (sink : Locale → Sink σ) (state : σ), SpeaksLatched sink state steps) ∧
    (∀ stream faults (w : Writer),
      let sink := fun locale => Lines.text locale stream faults
      let before := fun n => (after sink ⟨none, w⟩ (steps.take n)).sink
      (∀ (i : Nat) step, steps[i]? = some step →
        ∃ added : List (List UInt8),
          (before (i + 1)).stored = (before i).stored ++ added.flatten ∧
          List.Forall₂ (Lines.Rendered (latched (steps.take i)))
            ((sink (latched (steps.take i))).calls step.plan (before i)) added) ∧
      ∀ m n, m ≤ n → (before m).stored <+: (before n).stored) ∧
    ∀ steps', withoutChoices steps = withoutChoices steps' →
      (∀ kept, shown (fun _ => Collection.unlimited) ⟨none, kept⟩ steps =
        shown (fun _ => Collection.unlimited) ⟨none, kept⟩ steps') ∧
      (∀ limit reason kept, shown (fun _ => Collection.limited limit reason) ⟨none, kept⟩ steps =
        shown (fun _ => Collection.limited limit reason) ⟨none, kept⟩ steps') ∧
      ∀ stream faults (w : Writer),
        shown (fun locale => Lines.json locale stream faults) ⟨none, w⟩ steps =
          shown (fun locale => Lines.json locale stream faults) ⟨none, w⟩ steps' := by
  refine ⟨?_, ?_, ?_⟩
  · intro σ sink state
    exact speaksLatched sink state steps
  · intro stream faults w sink before
    refine ⟨?_, ?_⟩
    · intro i step hstep
      exact rendered_step stream faults w hstep
    · intro m n hle
      exact stored_begins stream faults _ steps hle
  · intro steps' hsame
    refine ⟨?_, ?_, ?_⟩
    · intro kept
      exact shown_eq_of_withoutChoices (Sink.speechless_const _) kept hsame
    · intro limit reason kept
      exact shown_eq_of_withoutChoices (Sink.speechless_const _) kept hsame
    · intro stream faults w
      exact shown_eq_of_withoutChoices (Lines.speechless_json stream faults) w hsame

/-- English is asked for too late: the line in Catalan stays as it is, and the next one is in
Catalan too. Without the choice of Catalan a writer of JSON with room for one line of the two is
left with the same bytes. -/
theorem locale_latches_and_stays_out_catalan_first :
    let first : List Step := [.setLocale .catalan, .emit (.status .success)]
    let steps : List Step := first ++ [.setLocale .english, .emit (.status .failure)]
    let steps' : List Step := [.emit (.status .success), .emit (.status .failure)]
    let text := fun locale => Lines.text locale "stdout" .none
    let json := fun locale =>
      Lines.json locale "stdout" { room := some ⟨50, .refuse⟩, interrupts := true }
    (∃ s', (run text ⟨none, {}⟩ steps)[2]? = some (.locale .catalan, s')) ∧
    (∃ answer s', (run text ⟨none, {}⟩ steps)[3]? = some (answer, s') ∧
      (answer, s'.sink) = (Step.emit (.status .failure)).inLocale (text .catalan) .catalan
        (after text ⟨none, {}⟩ (steps.take 3)).sink) ∧
    Lines.ended "ÈXIT" <+: (after text ⟨none, {}⟩ (steps.take 4)).sink.stored ∧
    withoutChoices steps = withoutChoices steps' ∧
    shown json ⟨none, {}⟩ steps = shown json ⟨none, {}⟩ steps' := by
  intro first steps steps' text json
  obtain ⟨hspeaks, hlines, hshown⟩ := locale_latches_and_stays_out steps
  obtain ⟨-, hbegins⟩ := hlines "stdout" .none {}
  refine ⟨?_, ?_, ?_, rfl, ?_⟩
  · obtain ⟨answer, s', hrun, -, hchoice⟩ := hspeaks text {} 2 (.setLocale .english) rfl
    obtain ⟨hanswer, -⟩ := hchoice .english rfl
    exact ⟨s', by rw [hrun, hanswer]; rfl⟩
  · obtain ⟨answer, s', hrun, hother, -⟩ := hspeaks text {} 3 (.emit (.status .failure)) rfl
    exact ⟨answer, s', hrun, hother rfl⟩
  · have hfirst : (after text ⟨none, {}⟩ (steps.take 2)).sink.stored = Lines.ended "ÈXIT" := by
      decide +kernel
    rw [← hfirst]
    exact hbegins 2 4 (by decide)
  · exact (hshown steps' rfl).2.2 "stdout" _ {}

end Session

end GreetingCheck
