import GreetingCheck.Arguments
import GreetingCheck.Diagnostic

/-!
# Reports

A report is the sequence of diagnostics that a run hands to a sink. A sink is any state machine
that takes one diagnostic at a time and either accepts or rejects it; the first rejection ends the
run, and nothing is emitted after it.

A sink may live inside a larger state (one of two streams, the sink of a session). `Place` says
where, and `Sink.within` is the same sink seen from the larger state.
-/

namespace GreetingCheck

/-- Why a sink did not accept a diagnostic. -/
structure Rejection where
  /-- The reason in the sink's own words. -/
  reason : String
  deriving DecidableEq

/-- The text of a rejection. -/
def Rejection.message (r : Rejection) : String := "report error: " ++ r.reason

/-- An action on the state `σ` of a sink that a rejection may cut short. -/
abbrev Emission (σ α : Type) := ExceptT Rejection (StateM σ) α

namespace Emission

variable {σ α : Type}

/-- Carries an action out from a given state: its result, and the state that it leaves behind. -/
def carryOut (action : Emission σ α) (s : σ) : Except Rejection α × σ :=
  (StateT.run (ExceptT.run action) s).run

/-- The action with a given behaviour. -/
def ofFunction (f : σ → Except Rejection α × σ) : Emission σ α :=
  ExceptT.mk fun s => pure (f s)

@[simp] theorem carryOut_ofFunction (f : σ → Except Rejection α × σ) (s : σ) :
    (ofFunction f).carryOut s = f s := rfl

@[simp] theorem carryOut_pure (a : α) (s : σ) :
    (pure a : Emission σ α).carryOut s = (.ok a, s) := rfl

/-- The second of two actions starts where the first has ended, and only if that
was not rejected. -/
theorem carryOut_bind {β : Type} (action : Emission σ α) (next : α → Emission σ β) (s : σ) :
    (action >>= next).carryOut s =
      match action.carryOut s with
      | (.ok a, s) => (next a).carryOut s
      | (.error rejection, s) => (.error rejection, s) := by
  unfold carryOut ExceptT.run StateT.run Id.run
  simp only [bind, ExceptT.bind, ExceptT.mk, StateT.bind, ExceptT.bindCont]
  cases action s with
  | mk result s' => cases result <;> rfl

end Emission

/-- A destination for diagnostics whose state has the type `σ`. -/
structure Sink (σ : Type) where
  /-- Takes one diagnostic. -/
  emit : Diagnostic → Emission σ Unit

/-! ## The runs -/

/-- Checks the arguments, echoing them before the check and announcing its code after it. -/
def checkWithReport {σ : Type} (sink : Sink σ) (args : Arguments) : Emission σ Outcome := do
  sink.emit (.checkArguments args.joined)
  let outcome := args.check
  sink.emit (.functionReturn outcome.returnCode)
  return outcome

/-- Echoes the arguments, checks them, and closes with the status that the returned code means. -/
def runReport {σ : Type} (sink : Sink σ) (args : Arguments) : Emission σ Outcome := do
  sink.emit (.scriptArguments args.joined)
  let code := (← checkWithReport sink args).returnCode
  let outcome := Outcome.ofReturnCode code
  sink.emit (.status outcome)
  return outcome

/-- Checks several lists of arguments one after the other through one sink. A rejection ends the
check that it meets and not the ones after it. -/
def checkEach {σ : Type} (sink : Sink σ) :
    List Arguments → σ → List (Except Rejection Outcome) × σ
  | [], s => ([], s)
  | args :: rest, s =>
    let (result, s) := (checkWithReport sink args).carryOut s
    let (results, s) := checkEach sink rest s
    (result :: results, s)

/-! ## Sinks inside a larger state -/

/-- A place inside the states `α` at which a state of type `σ` is kept. -/
structure Place (α σ : Type) where
  /-- What the place holds. -/
  get : α → σ
  /-- Puts something else there. -/
  set : σ → α → α
  get_set : ∀ s a, get (set s a) = s
  set_get : ∀ a, set (get a) a = a
  set_set : ∀ s t a, set s (set t a) = set s a

/-- An action on the state at a place, as an action on the larger state. -/
def Emission.within {α σ β : Type} (action : Emission σ β) (place : Place α σ) : Emission α β :=
  .ofFunction fun a =>
    let (result, s) := action.carryOut (place.get a)
    (result, place.set s a)

/-- The sink whose state is kept at a place of a larger state. -/
def Sink.within {α σ : Type} (sink : Sink σ) (place : Place α σ) : Sink α where
  emit d := (sink.emit d).within place

end GreetingCheck
