import GreetingCheck.Json.Decoder

/-!
# What a decoder accepts

A decoder succeeds on a text exactly when the text is scanned to its end and the tokens, taken one
after the other from the start, lead to a state that holds the record (`decode_eq_ok_iff`). What
the steps of a reader preserve, its runs preserve (`foldlM_invariant`).
-/

namespace GreetingCheck.Json

variable {σ ε : Type} {step : σ → Token → Except ε σ}

/-- A statement about a state and the tokens that led to it holds behind a run if every single
token preserves it. -/
theorem foldlM_invariant {P : σ → List Token → Prop}
    (hstep : ∀ s s' taken t, P s taken → step s t = .ok s' → P s' (taken ++ [t])) {s s' : σ}
    {taken tokens : List Token} (h : P s taken) (hrun : tokens.foldlM step s = .ok s') :
    P s' (taken ++ tokens) := by
  -- the tokens that were taken grow along with the run
  induction tokens generalizing s taken with
  | nil =>
    rw [List.foldlM_nil] at hrun
    cases hrun
    rw [List.append_nil]
    exact h
  | cons t rest ih =>
    rw [List.foldlM_cons] at hrun
    obtain ⟨mid, hfirst, hrest⟩ := bind_eq_ok.1 hrun
    rw [List.append_cons]
    exact ih (hstep s mid taken t h hfirst) hrest

/-- One token and then others. -/
theorem foldlM_cons_of_step {s mid : σ} {t : Token} (h : step s t = .ok mid)
    (rest : List Token) : (t :: rest).foldlM step s = rest.foldlM step mid := by
  rw [List.foldlM_cons, h]
  rfl

/-- Some tokens and then others. -/
theorem foldlM_append_of_run {s mid : σ} {tokens : List Token}
    (h : tokens.foldlM step s = .ok mid) (rest : List Token) :
    (tokens ++ rest).foldlM step s = rest.foldlM step mid := by
  rw [List.foldlM_append, h]
  rfl

namespace Decoder

variable {α : Type} {d : Decoder α}

/-- A decoder that takes no token once its record is complete. -/
def Halts (d : Decoder α) : Prop :=
  ∀ s a, d.result? s = some a → ∀ t, d.step s t = .error (.fault .malformed)

/-- A decoder succeeds when its tokens end with the text and lead to a complete record. -/
theorem run_eq_ok_iff (hd : d.Halts) {ending : Ending} {s : d.State} {tokens : List Token} {a : α} :
    d.run ending s tokens = .ok a ↔
      ending = .complete ∧ ∃ s', tokens.foldlM d.step s = .ok s' ∧ d.result? s' = some a := by
  induction tokens generalizing s with
  | nil =>
    unfold run
    cases hresult : d.result? s with
    | none => cases ending <;> simp [hresult, pure, Except.pure]
    | some b => cases ending <;> simp [hresult, pure, Except.pure]
  | cons t rest ih =>
    unfold run
    rw [List.foldlM_cons]
    cases hresult : d.result? s with
    | none =>
      cases hstep : d.step s t with
      | error e => simp [bind, Except.bind]
      | ok mid => exact ih
    -- a complete record refuses the token in the run as well as in the step
    | some b => simp [hd s b hresult t, bind, Except.bind]

theorem decode_eq_ok_iff (hd : d.Halts) {text : String} {a : α} :
    d.decode text = .ok a ↔
      ∃ tokens s, scan text.toList = (tokens, .complete) ∧
        tokens.foldlM d.step d.start = .ok s ∧ d.result? s = some a := by
  rw [decode]
  cases hscan : scan text.toList with
  | mk tokens ending =>
    show d.run ending d.start tokens = .ok a ↔ _
    rw [run_eq_ok_iff hd]
    constructor
    · intro h
      rcases h with ⟨rfl, s, hrun, hresult⟩
      exact ⟨tokens, s, rfl, hrun, hresult⟩
    · intro h
      rcases h with ⟨_, s, hsame, hrun, hresult⟩
      obtain ⟨rfl, rfl⟩ := Prod.mk.inj hsame
      exact ⟨rfl, s, hrun, hresult⟩

/-- What holds at the start and is kept by every step holds of the state in which a text has been
decoded, and of all the tokens of the text. -/
theorem exists_of_decode (hd : d.Halts) {P : d.State → List Token → Prop} (hstart : P d.start [])
    (hstep : ∀ s s' taken t, P s taken → d.step s t = .ok s' → P s' (taken ++ [t])) {text : String}
    {a : α} (h : d.decode text = .ok a) :
    ∃ tokens s, scan text.toList = (tokens, .complete) ∧ P s tokens ∧ d.result? s = some a := by
  obtain ⟨tokens, s, hscan, hrun, hresult⟩ := (decode_eq_ok_iff hd).1 h
  have hled : P s ([] ++ tokens) := foldlM_invariant hstep hstart hrun
  exact ⟨tokens, s, hscan, hled, hresult⟩

end Decoder

end GreetingCheck.Json
