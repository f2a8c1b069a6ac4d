import GreetingCheck.Collection
import GreetingCheck.Report

/-!
# Handing diagnostics to a sink

Both runs of `Report` hand a fixed list of diagnostics to a sink and stop at the first rejection.
Three things live here:

* `Sink.emitAll`, the run that hands over any list, and `runReport_eq` and `checkWithReport_eq`,
  which say that the two runs are this one on `Arguments.reportPlan` and `Arguments.checkPlan`;
  different lists are told apart by some sink (`Sink.emitAll_then_eq_iff`);
* `Sink.recorded`, a sink that keeps a record of its calls beside its state, and `Sink.calls`,
  what that record holds after `emitAll`;
* `Sink.within` at one place inside another, which makes the way in which a sink reaches a run
  irrelevant for what the run does.
-/

namespace GreetingCheck

variable {α β σ : Type}

/-! ## Actions and their behaviour -/

namespace Emission

/-- An action is determined by what it does to each state. -/
theorem ext_carryOut {x y : Emission σ β} (h : ∀ s, x.carryOut s = y.carryOut s) : x = y :=
  funext h

/-- The second action starts where the first was accepted. -/
theorem carryOut_bind_ok {action : Emission σ α} {next : α → Emission σ β} {s s' : σ} {a : α}
    (h : action.carryOut s = (.ok a, s')) :
    (action >>= next).carryOut s = (next a).carryOut s' := by
  rw [carryOut_bind, h]

/-- A rejection of the first action is the end of both. -/
theorem carryOut_bind_error {action : Emission σ α} {next : α → Emission σ β} {s s' : σ}
    {rejection : Rejection} (h : action.carryOut s = (.error rejection, s')) :
    (action >>= next).carryOut s = (.error rejection, s') := by
  rw [carryOut_bind, h]

/-- An action that ends with a fixed result keeps state and rejection of what precedes it. -/
theorem carryOut_then_pure (action : Emission σ α) (b : β) (s : σ) :
    (do let _ ← action; pure b : Emission σ β).carryOut s =
      ((action.carryOut s).1.map fun _ => b, (action.carryOut s).2) := by
  rw [carryOut_bind]
  rcases action.carryOut s with ⟨_ | _, s'⟩ <;> rfl

end Emission

open Emission

/-! ## Handing over a list -/

/-- Hands diagnostics to a sink, one after the other, until it rejects one. -/
def Sink.emitAll (sink : Sink σ) : List Diagnostic → Emission σ Unit
  | [] => pure ()
  | d :: rest => do
    sink.emit d
    sink.emitAll rest

/-- A single diagnostic is handed over by emitting it. -/
theorem Sink.emitAll_singleton (sink : Sink σ) (d : Diagnostic) :
    sink.emitAll [d] = sink.emit d := by
  simp [emitAll]

/-- A sink that keeps everything has the whole list behind what it kept before. -/
theorem Collection.carryOut_emitAll_unlimited (plan kept : List Diagnostic) :
    (unlimited.emitAll plan).carryOut kept = (.ok (), kept ++ plan) := by
  induction plan generalizing kept with
  | nil =>
    rw [List.append_nil]
    rfl
  | cons d rest ih =>
    have hemit : (unlimited.emit d).carryOut kept = (.ok (), kept ++ [d]) := rfl
    rw [Sink.emitAll, carryOut_bind_ok hemit, ih, List.append_assoc]
    rfl

/-- Handovers that no sink can tell apart are handovers of one list, with one result. -/
theorem Sink.emitAll_then_eq_iff {ds ds' : List Diagnostic} {b b' : β} :
    (∀ {σ : Type} (sink : Sink σ),
      (do sink.emitAll ds; return b : Emission σ β) = do sink.emitAll ds'; return b') ↔
      ds = ds' ∧ b = b' := by
  constructor
  · intro h
    have hkept : ((do Collection.unlimited.emitAll ds; return b : Emission _ β).carryOut []) =
        (do Collection.unlimited.emitAll ds'; return b' : Emission _ β).carryOut [] := by
      rw [h]
    rw [carryOut_then_pure, carryOut_then_pure, Collection.carryOut_emitAll_unlimited,
      Collection.carryOut_emitAll_unlimited] at hkept
    injection hkept with hresult hlist
    injection hresult with hb
    exact ⟨hlist, hb⟩
  · rintro ⟨rfl, rfl⟩ σ sink
    rfl

namespace Arguments

/-- The diagnostics of a check. -/
def checkPlan (args : Arguments) : List Diagnostic :=
  [.checkArguments args.joined, .functionReturn args.check.returnCode]

/-- The diagnostics of a whole report. -/
def reportPlan (args : Arguments) : List Diagnostic :=
  .scriptArguments args.joined :: args.checkPlan ++ [.status args.check]

end Arguments

theorem checkWithReport_eq (sink : Sink σ) (args : Arguments) :
    checkWithReport sink args = do
      sink.emitAll args.checkPlan
      return args.check := by
  simp [checkWithReport, Sink.emitAll, Arguments.checkPlan]

/-- A report is its three parts, and the outcome survives its way through the return code. -/
theorem runReport_eq_parts (sink : Sink σ) (args : Arguments) :
    runReport sink args = do
      sink.emit (.scriptArguments args.joined)
      let outcome ← checkWithReport sink args
      sink.emit (.status outcome)
      return outcome := by
  simp only [runReport, Outcome.ofReturnCode_returnCode]

theorem runReport_eq (sink : Sink σ) (args : Arguments) :
    runReport sink args = do
      sink.emitAll args.reportPlan
      return args.check := by
  rw [runReport_eq_parts, checkWithReport_eq]
  simp [Sink.emitAll, Arguments.reportPlan, Arguments.checkPlan]

/-! ## The record of the calls -/

/-- One call of a sink. -/
structure Call (σ : Type) where
  /-- The state that the call met. -/
  before : σ
  diagnostic : Diagnostic
  answer : Except Rejection Unit

/-- A sink that keeps a record of its calls beside its state. -/
def Sink.recorded (sink : Sink σ) : Sink (σ × List (Call σ)) where
  emit d := .ofFunction fun (s, record) =>
    let (answer, s') := (sink.emit d).carryOut s
    (answer, s', record ++ [⟨s, d, answer⟩])

/-- The calls made in handing over a list. -/
def Sink.calls (sink : Sink σ) : List Diagnostic → σ → List (Call σ)
  | [], _ => []
  | d :: rest, s =>
    match (sink.emit d).carryOut s with
    | (.ok (), s') => ⟨s, d, .ok ()⟩ :: sink.calls rest s'
    | (.error rejection, _) => [⟨s, d, .error rejection⟩]

/-- The record changes nothing else, and it holds the calls. -/
theorem Sink.carryOut_emitAll_recorded (sink : Sink σ) (ds : List Diagnostic) (s : σ)
    (record : List (Call σ)) :
    (sink.recorded.emitAll ds).carryOut (s, record) =
      (((sink.emitAll ds).carryOut s).1, ((sink.emitAll ds).carryOut s).2,
        record ++ sink.calls ds s) := by
  induction ds generalizing s record with
  | nil => simp [emitAll, calls]
  | cons d rest ih =>
    rcases h : (sink.emit d).carryOut s with ⟨rejection | _, s'⟩
    · have hrec : (sink.recorded.emit d).carryOut (s, record) =
          (.error rejection, s', record ++ [⟨s, d, .error rejection⟩]) := by
        simp [recorded, h]
      rw [emitAll, emitAll, carryOut_bind_error hrec, carryOut_bind_error h]
      simp [calls, h]
    · have hrec : (sink.recorded.emit d).carryOut (s, record) =
          (.ok (), s', record ++ [⟨s, d, .ok ()⟩]) := by
        simp [recorded, h]
      rw [emitAll, emitAll, carryOut_bind_ok hrec, carryOut_bind_ok h, ih]
      simp [calls, h]

/-! ## Places inside places -/

/-- The place that is everything. -/
def Place.whole (σ : Type) : Place σ σ where
  get s := s
  set s _ := s
  get_set _ _ := rfl
  set_get _ := rfl
  set_set _ _ _ := rfl

/-- A place inside of what another place holds. -/
def Place.inside (inner : Place β σ) (outer : Place α β) : Place α σ where
  get a := inner.get (outer.get a)
  set s a := outer.set (inner.set s (outer.get a)) a
  get_set s a := by rw [outer.get_set, inner.get_set]
  set_get a := by rw [inner.set_get, outer.set_get]
  set_set s t a := by rw [outer.get_set, outer.set_set, inner.set_set]

theorem Sink.within_whole (sink : Sink σ) : sink.within (Place.whole σ) = sink := rfl

theorem Sink.within_within (sink : Sink σ) (inner : Place β σ) (outer : Place α β) :
    (sink.within inner).within outer = sink.within (inner.inside outer) := rfl

@[simp] theorem Emission.carryOut_within (action : Emission σ β) (place : Place α σ) (a : α) :
    (action.within place).carryOut a =
      ((action.carryOut (place.get a)).1, place.set (action.carryOut (place.get a)).2 a) := rfl

/-- Handing a list to a sink at a place is what handing it to the sink itself does there. -/
theorem Sink.emitAll_within (sink : Sink σ) (place : Place α σ) (ds : List Diagnostic) :
    (sink.within place).emitAll ds = (sink.emitAll ds).within place := by
  apply ext_carryOut
  intro a
  induction ds generalizing a with
  | nil => simp [emitAll, place.set_get]
  | cons d rest ih =>
    have hemit : ((sink.within place).emit d).carryOut a =
        (((sink.emit d).carryOut (place.get a)).1,
          place.set ((sink.emit d).carryOut (place.get a)).2 a) := rfl
    rcases h : (sink.emit d).carryOut (place.get a) with ⟨rejection | _, s'⟩
    · rw [h] at hemit
      rw [emitAll, carryOut_bind_error hemit, carryOut_within, emitAll, carryOut_bind_error h]
    · rw [h] at hemit
      rw [emitAll, carryOut_bind_ok hemit, ih, carryOut_within, carryOut_within, emitAll,
        carryOut_bind_ok h, place.get_set, place.set_set]

/-- So is a report to a sink at a place. -/
theorem runReport_within (sink : Sink σ) (place : Place α σ) (args : Arguments) :
    runReport (sink.within place) args = (runReport sink args).within place := by
  apply ext_carryOut
  intro a
  rw [runReport_eq, runReport_eq, carryOut_then_pure, carryOut_within, carryOut_then_pure,
    Sink.emitAll_within, carryOut_within]

end GreetingCheck
