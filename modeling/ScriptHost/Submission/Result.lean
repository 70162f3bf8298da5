import ScriptHost.Data.Value
import ScriptHost.Fault.Host
import ScriptHost.Ready.Pass

/-!
# Results of executions

What the caller of a submission gets back: the value of the guest code or the text of its failure,
and the time that the execution took.
-/

namespace ScriptHost.Submission

/-- The result of an execution.  The time is in whole milliseconds. -/
structure Result where
  outcome : Except String Value
  elapsedMillis : Nat

namespace Result

/-- The result of guest code that ran for some microseconds. -/
def ofOutcome (outcome : Except String Value) (micros : Nat) : Result :=
  ⟨outcome, wholeMillis micros⟩

/-- Whether the guest code returned. -/
def success (r : Result) : Bool := r.outcome.isOk

/-- The result of guest code by how it ended: a panic is a failure that says so. -/
def ofFinish (finish : Ready.Finish Value) (micros : Nat) : Result :=
  ofOutcome
    (match finish with
      | .returned value => .ok value
      | .raised message => .error message
      | .panicked message => .error ("Interpreter panic: " ++ message))
    micros

/-- What a result delivers: its value or its failure, with the name that tells them apart. -/
def delivered (r : Result) : String × Value :=
  match r.outcome with
  | .ok value => ("result", value)
  | .error message => ("error", .string message)

/-- The result as a datum. -/
def value (r : Result) : Value :=
  .object [("success", .bool r.success), r.delivered, ("elapsed_ms", .int r.elapsedMillis)]

end Result
end ScriptHost.Submission
