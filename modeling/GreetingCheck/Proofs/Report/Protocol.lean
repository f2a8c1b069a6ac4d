import GreetingCheck.Proofs.Report.Handover

/-!
# The protocol between a run and its sink

What a run may do with a sink, whatever state machine that is and however the run gets hold of it.
`Obeys` states the rules for one run of one sink, `FollowsPlan` for all sinks, all of their states
and all ways of passing them. `report_followsPlan` says that both runs keep to the rules.

The proofs go through `Sink.HandsOver`, which derives a handover call by call: every rule is an
induction on that derivation.
-/

namespace GreetingCheck

variable {α σ : Type}

open Emission

/-! ## Handovers call by call -/

/-- `sink.HandsOver plan s calls answer s'`: handing over `plan` in the state `s` makes these calls,
ends with this answer and leaves the state `s'`. -/
inductive Sink.HandsOver (sink : Sink σ) :
    List Diagnostic → σ → List (Call σ) → Except Rejection Unit → σ → Prop
  | nothing (s : σ) : sink.HandsOver [] s [] (.ok ()) s
  | rejected {d : Diagnostic} {s s' : σ} {rejection : Rejection} (rest : List Diagnostic)
      (h : (sink.emit d).carryOut s = (.error rejection, s')) :
      sink.HandsOver (d :: rest) s [⟨s, d, .error rejection⟩] (.error rejection) s'
  | accepted {d : Diagnostic} {rest : List Diagnostic} {s s' s'' : σ} {calls : List (Call σ)}
      {answer : Except Rejection Unit} (h : (sink.emit d).carryOut s = (.ok (), s'))
      (next : sink.HandsOver rest s' calls answer s'') :
      sink.HandsOver (d :: rest) s (⟨s, d, .ok ()⟩ :: calls) answer s''

theorem Sink.handsOver_emitAll (sink : Sink σ) (plan : List Diagnostic) (s : σ) :
    sink.HandsOver plan s (sink.calls plan s) ((sink.emitAll plan).carryOut s).1
      ((sink.emitAll plan).carryOut s).2 := by
  induction plan generalizing s with
  | nil => exact .nothing s
  | cons d rest ih =>
    rcases h : (sink.emit d).carryOut s with ⟨rejection | _, s'⟩
    · rw [emitAll, carryOut_bind_error h, calls, h]
      exact .rejected rest h
    · rw [emitAll, carryOut_bind_ok h, calls, h]
      exact .accepted h (ih s')

/-- Calls that follow one another from the state `s` to the state `s'`: each meets the state that
the one before it has left behind, and gets the answer that the sink gives there. -/
def Sink.Follows (sink : Sink σ) : σ → List (Call σ) → σ → Prop
  | s, [], s' => s' = s
  | s, call :: rest, s' =>
    call.before = s ∧ call.answer = ((sink.emit call.diagnostic).carryOut s).1 ∧
      sink.Follows ((sink.emit call.diagnostic).carryOut s).2 rest s'

namespace Sink.HandsOver

variable {sink : Sink σ} {plan : List Diagnostic} {s s' : σ} {calls : List (Call σ)}
  {answer : Except Rejection Unit}

/-- The sink gets a beginning of the plan. -/
theorem handed (h : sink.HandsOver plan s calls answer s') :
    calls.map Call.diagnostic <+: plan := by
  induction h with
  | nothing s => exact List.prefix_rfl
  | @rejected d _ _ _ rest h => exact ⟨rest, rfl⟩
  | accepted h next ih =>
    rw [List.map_cons, List.cons_prefix_cons]
    exact ⟨rfl, ih⟩

/-- The first diagnostic of a plan is always handed over. -/
theorem begun (h : sink.HandsOver plan s calls answer s') (hplan : plan ≠ []) : calls ≠ [] := by
  cases h with
  | nothing => exact absurd rfl hplan
  | rejected | accepted => exact List.cons_ne_nil _ _

theorem follows (h : sink.HandsOver plan s calls answer s') : sink.Follows s calls s' := by
  induction h with
  | nothing s => rfl
  | rejected rest h =>
    rw [Follows, h]
    exact ⟨rfl, rfl, rfl⟩
  | accepted h next ih =>
    rw [Follows, h]
    exact ⟨rfl, rfl, ih⟩

/-- A call that another one comes after was accepted. -/
theorem accepted_of_mem_dropLast (h : sink.HandsOver plan s calls answer s') :
    ∀ call ∈ calls.dropLast, call.answer = .ok () := by
  induction h with
  | nothing s => simp
  | rejected rest h => simp
  | @accepted _ _ _ _ _ calls _ h next ih =>
    intro call hcall
    cases calls with
    | nil => simp at hcall
    | cons second later =>
      rw [List.dropLast_cons_cons, List.mem_cons] at hcall
      rcases hcall with rfl | hcall
      · rfl
      · exact ih call hcall

/-- A handover succeeds exactly when the whole plan was accepted. -/
theorem answer_eq_ok_iff (h : sink.HandsOver plan s calls answer s') :
    answer = .ok () ↔
      calls.length = plan.length ∧ ∀ call ∈ calls, call.answer = .ok () := by
  induction h with
  | nothing s => simp
  | rejected rest h => simp
  | accepted h next ih => simp [ih]

/-- A handover fails exactly with the answer to its last call. -/
theorem answer_eq_error_iff (h : sink.HandsOver plan s calls answer s') (rejection : Rejection) :
    answer = .error rejection ↔
      ∃ call, calls.getLast? = some call ∧ call.answer = .error rejection := by
  induction h with
  | nothing s => simp
  | rejected rest h => simp
  | @accepted _ _ _ _ _ calls _ h next ih =>
    cases calls with
    | nil =>
      -- nothing is left to hand over, so that the call accepted here is the last one
      cases next
      simp
    | cons second later => rw [List.getLast?_cons_cons, ih]

end Sink.HandsOver

/-! ## Ways of passing a sink -/

/-- How a sink with states of the type `σ` is passed to a run whose surroundings have states of
the type `α`: by value, or through a chain of references, each of which leads to a place in the
state around it. -/
inductive Passing (σ : Type) : Type → Type 1
  | byValue : Passing σ σ
  | byReference {α β : Type} (referent : Passing σ β) (place : Place α β) : Passing σ α

namespace Passing

/-- The sink that the run sees. -/
def lend (sink : Sink σ) {α : Type} : Passing σ α → Sink α
  | .byValue => sink
  | .byReference referent place => (referent.lend sink).within place

/-- Where the passed sink keeps its state. -/
def place {α : Type} : Passing σ α → Place α σ
  | .byValue => .whole σ
  | .byReference referent place => referent.place.inside place

theorem lend_eq_within (sink : Sink σ) (passing : Passing σ α) :
    passing.lend sink = sink.within passing.place := by
  induction passing with
  | byValue => exact sink.within_whole.symm
  | byReference referent place ih =>
    rw [lend, ih, Sink.within_within]
    rfl

end Passing

/-- However a sink in the state `s` is passed to it, the run ends with this result, and it leaves
the sink in the state `s'` and everything around the sink alone. -/
def HoweverPassed (run : (α : Type) → Sink α → Emission α Outcome) (sink : Sink σ) (s : σ)
    (result : Except Rejection Outcome) (s' : σ) : Prop :=
  ∀ (α : Type) (passing : Passing σ α) (a : α), passing.place.get a = s →
    (run α (passing.lend sink)).carryOut a = (result, passing.place.set s' a)

/-! ## The rules -/

/-- The rules for one run of a sink that starts in the state `s`, makes these calls, ends with this
result and leaves the state `s'`. -/
structure Obeys (sink : Sink σ) (plan : List Diagnostic) (outcome : Outcome) (s : σ)
    (calls : List (Call σ)) (result : Except Rejection Outcome) (s' : σ) : Prop where
  /-- The sink gets a beginning of the plan, in its order. -/
  handed : calls.map Call.diagnostic <+: plan
  begun : calls ≠ []
  follows : sink.Follows s calls s'
  /-- There is no call after a rejected one. -/
  accepted : ∀ call ∈ calls.dropLast, call.answer = .ok ()
  succeeds : ∀ o, result = .ok o ↔
    o = outcome ∧ calls.length = plan.length ∧ ∀ call ∈ calls, call.answer = .ok ()
  fails : ∀ rejection, result = .error rejection ↔
    ∃ call, calls.getLast? = some call ∧ call.answer = .error rejection

/-- A run that hands over a plan to any sink, in any state and however passed, keeping to the rules.
The calls are those that the sink itself gets to see. -/
def FollowsPlan (run : (α : Type) → Sink α → Emission α Outcome) (plan : List Diagnostic)
    (outcome : Outcome) : Prop :=
  ∀ (σ : Type) (sink : Sink σ) (s : σ), ∃ calls result s',
    HoweverPassed run sink s result s' ∧
    HoweverPassed run sink.recorded (s, []) result (s', calls) ∧
    Obeys sink plan outcome s calls result s'

variable {plan : List Diagnostic} {outcome : Outcome}

/-- A run that hands over a list does so however the sink is passed. -/
theorem howeverPassed_of_eq {run : (α : Type) → Sink α → Emission α Outcome}
    (hrun : ∀ (α : Type) (sink : Sink α), run α sink = do sink.emitAll plan; return outcome)
    (sink : Sink σ) (s : σ) :
    HoweverPassed run sink s (((sink.emitAll plan).carryOut s).1.map fun _ => outcome)
      ((sink.emitAll plan).carryOut s).2 := by
  intro α passing a ha
  rw [hrun, carryOut_then_pure, passing.lend_eq_within, sink.emitAll_within, carryOut_within, ha]

/-- A run that hands over a list keeps to the rules. -/
theorem followsPlan_of_eq {run : (α : Type) → Sink α → Emission α Outcome} (hplan : plan ≠ [])
    (hrun : ∀ (α : Type) (sink : Sink α), run α sink = do sink.emitAll plan; return outcome) :
    FollowsPlan run plan outcome := by
  intro σ sink s
  have hcalls := sink.handsOver_emitAll plan s
  refine ⟨sink.calls plan s, _, _, howeverPassed_of_eq hrun sink s, ?_,
    ⟨hcalls.handed, hcalls.begun hplan, hcalls.follows, hcalls.accepted_of_mem_dropLast, ?_, ?_⟩⟩
  · have hrecorded := howeverPassed_of_eq hrun sink.recorded (s, [])
    rw [sink.carryOut_emitAll_recorded, List.nil_append] at hrecorded
    exact hrecorded
  · intro o
    rw [← hcalls.answer_eq_ok_iff]
    cases ((sink.emitAll plan).carryOut s).1 <;> simp [Except.map, eq_comm]
  · intro rejection
    rw [← hcalls.answer_eq_error_iff]
    cases ((sink.emitAll plan).carryOut s).1 <;> simp [Except.map]

/-! ## The two runs -/

namespace Arguments

variable (args : Arguments)

theorem returnCode_check :
    args.check.returnCode = if args.toList.head? = some "hello" then 0 else 1 := by
  unfold check first? greeting
  split <;> rfl

end Arguments

theorem Outcome.eq_success_iff (o : Outcome) : o = .success ↔ o.returnCode = 0 := by
  cases o <;> decide

/-- A report hands over its four diagnostics and a check the two in the middle, both with the
outcome of the check as their result, and a report is a check between its first and its last
diagnostic. -/
theorem report_followsPlan (args : Arguments) :
    ∃ (joined : String) (code : Int32) (outcome : Outcome),
      joined = " ".intercalate args.toList ∧
      (code = if args.toList.head? = some "hello" then 0 else 1) ∧
      (outcome = .success ↔ code = 0) ∧
      FollowsPlan (fun _ sink => runReport sink args)
        [.scriptArguments joined, .checkArguments joined, .functionReturn code, .status outcome]
        args.check ∧
      FollowsPlan (fun _ sink => checkWithReport sink args)
        [.checkArguments joined, .functionReturn code] args.check ∧
      ∀ {σ : Type} (sink : Sink σ), runReport sink args = do
        sink.emit (.scriptArguments joined)
        let checked ← checkWithReport sink args
        sink.emit (.status checked)
        return checked := by
  refine ⟨args.joined, args.check.returnCode, args.check, rfl, args.returnCode_check,
    args.check.eq_success_iff, ?_, ?_, fun sink => runReport_eq_parts sink args⟩
  · exact followsPlan_of_eq (List.cons_ne_nil _ _) fun _ sink => runReport_eq sink args
  · exact followsPlan_of_eq (List.cons_ne_nil _ _) fun _ sink => checkWithReport_eq sink args

end GreetingCheck
