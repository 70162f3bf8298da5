import ScriptHost.Data.Value

/-!
# Ready callbacks

A callback is ready once the event it waits for has happened.  It names the closure that the guest
has registered for the event, and carries what the event delivers.
-/

namespace ScriptHost.Ready

/-- What a callback refers to on the guest side: a timer's closure, which may run again and again,
or the closure of one operation. -/
inductive Target where
  | timer (id : Nat)
  | completion (id : Nat)
  deriving DecidableEq, Inhabited

/-- Data delivered with a success. -/
inductive Payload where
  | nothing
  | bytes (data : ByteArray)
  | value (v : Value)
  deriving Inhabited

/-- The outcome of an operation.  `noData` is a success too: the operation is fine and nothing was
available yet. -/
inductive Outcome where
  | success (payload : Payload)
  | noData
  | failure (reason : String)
  deriving Inhabited

/-- Everything but a failure is a success. -/
def Outcome.isSuccess : Outcome → Bool
  | .failure _ => false
  | _ => true

/-- A callback that is ready to run.  A timer that fires delivers no outcome. -/
structure Callback where
  target : Target
  outcome : Option Outcome
  deriving Inhabited

/-- The firing of a timer. -/
def Callback.firing (id : Nat) : Callback := ⟨.timer id, none⟩

/-- The completion of an operation. -/
def Callback.completion (id : Nat) (outcome : Outcome) : Callback := ⟨.completion id, some outcome⟩

end ScriptHost.Ready
