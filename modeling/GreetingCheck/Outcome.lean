/-!
# The outcome of a check

A check either succeeds or fails. An outcome has two other forms: a label, by which records name it,
and a return code, by which a function or a process hands it on. Both determine the outcome, and of
all return codes only one means success.
-/

namespace GreetingCheck

/-- The result of checking the arguments of one invocation. -/
inductive Outcome
  | success
  | failure
  deriving DecidableEq

namespace Outcome

/-- The return code of a successful check. -/
def successCode : Int32 := 0

/-- The return code of a failed check. -/
def failureCode : Int32 := 1

/-- The return code that stands for an outcome. -/
def returnCode : Outcome → Int32
  | .success => successCode
  | .failure => failureCode

/-- Every return code but `successCode` means failure. -/
def ofReturnCode (code : Int32) : Outcome :=
  if code = successCode then .success else .failure

/-- Whether an outcome is a success. -/
def isSuccess : Outcome → Bool
  | .success => true
  | .failure => false

/-- The name of an outcome, in lower case. -/
def label : Outcome → String
  | .success => "success"
  | .failure => "failure"

/-- The labels, in the order in which they are listed to a user. -/
def labels : List String := [label .success, label .failure]

/-- The outcome with a given label. -/
def ofLabel? (name : String) : Option Outcome :=
  if name = label .success then some .success
  else if name = label .failure then some .failure
  else none

@[simp] theorem ofReturnCode_returnCode (o : Outcome) : ofReturnCode o.returnCode = o := by
  cases o <;> decide

@[simp] theorem ofLabel?_label (o : Outcome) : ofLabel? o.label = some o := by
  cases o <;> decide

end Outcome

end GreetingCheck
