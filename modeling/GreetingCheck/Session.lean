import GreetingCheck.Message
import GreetingCheck.Report

/-!
# Sessions

A session is a sequence of steps over one sink. Its locale can be chosen once: the first choice
stays, and until then the session speaks English. Steps that emit diagnostics do so in the locale
of that moment.
-/

namespace GreetingCheck

/-- A step of a session. -/
inductive Step
  | runReport (args : Arguments)
  | checkWithReport (args : Arguments)
  | emit (d : Diagnostic)
  | render (d : Diagnostic)
  | setLocale (locale : Locale)
  | currentLocale
  | translate (key : String) (args : List Text.Template.Argument)
  | writeFailed (stream : String) (error : IoError)

/-- What a step answers. -/
inductive Answer
  /-- A run came to an outcome or was rejected. -/
  | outcome (result : Except Rejection Outcome)
  /-- A diagnostic was accepted or rejected. -/
  | emitted (result : Except Rejection Unit)
  | text (s : String)
  | locale (l : Locale)

/-- A session over a sink whose state has the type `σ`. -/
structure Session (σ : Type) where
  /-- The locale, once it has been chosen. -/
  chosen : Option Locale := none
  /-- The state of the sink. -/
  sink : σ

namespace Session

variable {σ : Type}

/-- The locale in which a session speaks. -/
def locale (s : Session σ) : Locale := s.chosen.getD .fallback

/-- Chooses the locale of a session, unless that has been done. -/
def choose (s : Session σ) (locale : Locale) : Session σ :=
  { s with chosen := some (s.chosen.getD locale) }

/-- Where a session keeps the state of its sink. -/
def sinkPlace : Place (Session σ) σ where
  get := Session.sink
  set state s := { s with sink := state }
  get_set _ _ := rfl
  set_get _ := rfl
  set_set _ _ _ := rfl

/-- Carries out one step. The sink may depend on the locale in which the session speaks. -/
def step (sink : Locale → Sink σ) (s : Session σ) : Step → Answer × Session σ
  | .runReport args =>
    let (result, s) := (GreetingCheck.runReport (here s) args).carryOut s
    (.outcome result, s)
  | .checkWithReport args =>
    let (result, s) := (GreetingCheck.checkWithReport (here s) args).carryOut s
    (.outcome result, s)
  | .emit d =>
    let (result, s) := ((here s).emit d).carryOut s
    (.emitted result, s)
  | .render d => (.text (Message.ofDiagnostic s.locale d), s)
  | .setLocale locale =>
    let s := s.choose locale
    (.locale s.locale, s)
  | .currentLocale => (.locale s.locale, s)
  | .translate key args => (.text (Catalog.translate s.locale key args), s)
  | .writeFailed stream error => (.text (Message.writeFailed s.locale stream error), s)
where
  here (s : Session σ) : Sink (Session σ) := (sink s.locale).within sinkPlace

/-- Carries out steps one after the other: the answer to each, with the session as it
is after it. -/
def run (sink : Locale → Sink σ) : Session σ → List Step → List (Answer × Session σ)
  | _, [] => []
  | s, first :: rest =>
    let (answer, s) := s.step sink first
    (answer, s) :: run sink s rest

end Session

end GreetingCheck
