/-!
# What can be wrong with a JSON text

A text that is no JSON either ends before its value is complete or goes wrong at some character. The
two are told apart, because the first kind may be mended by reading on.
-/

namespace GreetingCheck.Json

/-- Why a text is no JSON. -/
inductive Fault
  /-- The text ends too early. -/
  | ended
  /-- The text holds something that JSON does not allow at that place. -/
  | malformed
  deriving DecidableEq

/-- The fault of a text that goes on with `rest` where something else is needed. -/
def Fault.before {α : Type} : List α → Fault
  | [] => .ended
  | _ :: _ => .malformed

/-- A sequence of two readings succeeds exactly when both of them do. -/
theorem bind_eq_ok {ε α β : Type} {x : Except ε α} {f : α → Except ε β} {b : β} :
    x >>= f = .ok b ↔ ∃ a, x = .ok a ∧ f a = .ok b := by
  cases x <;> simp [bind, Except.bind]

end GreetingCheck.Json
