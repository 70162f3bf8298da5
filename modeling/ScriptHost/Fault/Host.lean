import ScriptHost.Fault.Network

/-!
# Failures of the host

The failures that a caller of the host meets.  Lengths of time are in microseconds and are shown in
whole milliseconds, rounded down.
-/

namespace ScriptHost

/-- Whole milliseconds in a number of microseconds. -/
def wholeMillis (micros : Nat) : Nat := micros / 1000

/-- Why the host could not do what it was asked to. -/
inductive HostFault where
  /-- Guest code raised. -/
  | guest (text : String)
  /-- The caller of a submission stopped waiting for it. -/
  | executionTimeout (request : Nat) (micros : Nat)
  /-- Outstanding work was still there when the time for it was over. -/
  | shutdownTimeout (micros : Nat)
  | invalidDelay (millis : Int)
  /-- The interpreter's own thread tried to submit. -/
  | reentrant
  /-- A thread other than the interpreter's tried to run guest code. -/
  | wrongThread
  | shutDown
  | startup (text : String)
  /-- The guest language could not be set up. -/
  | binding (text : String)
  | network (cause : NetworkFault)
  deriving DecidableEq, Inhabited

/-- The text of a failure. -/
def HostFault.message : HostFault → String
  | guest text => text
  | executionTimeout request micros =>
      "Execution request " ++ toString request ++ " timed out after " ++
        toString (wholeMillis micros) ++ "ms"
  | shutdownTimeout micros =>
      "Operations still pending after " ++ toString (wholeMillis micros) ++ "ms shutdown timeout"
  | invalidDelay millis =>
      "Invalid timer delay " ++ toString millis ++ "ms: delay must be >= 0"
  | reentrant => "Cannot submit execution from the interpreter thread"
  | wrongThread => "Guest code may only run on the interpreter thread"
  | shutDown => "Runtime shut down"
  | startup text => "Runtime startup failed: " ++ text
  | binding text => "Lua error: " ++ text
  | network cause => cause.message

end ScriptHost
