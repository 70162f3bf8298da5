import ScriptHost.Desk.Ask
import ScriptHost.Guest.Code

/-!
# Guest languages over a desk

A program is guest code reduced to what the host can tell of it: what it asks the desk for, one
request after the other, and how it ends, if it does.  Between two requests the host and its other
threads may do anything.

A language turns submitted source and called closures into programs.  It has a memory of its own,
which each program takes over from the one before it, however that has ended.
-/

namespace ScriptHost.Desk

open Ready (Callback Closures Finish Invocation Outcome Resolved)
open Guest (Code)

/-- A program with closures of type `F` and a memory of type `μ`. -/
inductive Program (F μ : Type) where
  | finish (ending : Finish Value) (memory : μ)
  | ask (request : Ask F) (next : Answer → Program F μ)
  /-- Guest code that is at work without asking for anything. -/
  | pause (next : Unit → Program F μ)
  /-- Guest code that goes on for ever without asking for anything. -/
  | endless

/-- A guest language. -/
structure Language (F μ : Type) where
  execute : Guest.Request → μ → Program F μ
  call : F → Option Outcome → μ → Program F μ

/-- What a guest keeps: the table of its closures, and the memory of the program that ended last. -/
structure State (F μ : Type) where
  closures : Closures F
  memory : μ

variable {F μ : Type}

/-- The state of a guest that has not run yet. -/
def State.start (memory : μ) : State F μ := ⟨.empty, memory⟩

/-- Perform a request at a desk. -/
def State.perform (request : Ask F) (world : Services × State F μ) :
    Answer × (Services × State F μ) :=
  let (answer, services, closures) := Desk.perform request world.1 world.2.closures
  (answer, services, { world.2 with closures })

/-- A program as code on the services and the state of its guest. -/
def Program.code : Program F μ → Code (Services × State F μ) Value
  | .finish ending memory =>
      .step (fun world => (world.1, { world.2 with memory })) fun _ => .finish ending
  | .ask request next =>
      .step (fun world => (State.perform request world).2) fun world =>
        (next (State.perform request world).1).code
  | .pause next => .step id fun _ => (next ()).code
  | .endless => .await (fun _ => false) (.return_ .null)

/-- Look up the closure of a callback in the table of a guest. -/
def State.resolve (c : Callback) (world : Services × State F μ) :
    Option (Resolved F) × (Services × State F μ) :=
  let (found, closures) := world.2.closures.resolve c.target
  (found, world.1, { world.2 with closures })

/-- Run the closure of a callback.  A closure that is used once has left the table by then. -/
def Language.invoke (l : Language F μ) (c : Callback) : Code (Services × State F μ) Invocation :=
  .step (fun world => (State.resolve c world).2) fun world =>
    match (State.resolve c world).1 with
    | none => .return_ .skipped
    | some (.retained closure) | some (.removed closure) =>
        (l.call closure c.outcome world.2.memory).code.andThen fun _ => .return_ .invoked

/-- Run submitted source. -/
def Language.run (l : Language F μ) (r : Guest.Request) : Code (Services × State F μ) Value :=
  .step id fun world => (l.execute r world.2.memory).code

/-- A guest that speaks a language. -/
def Language.guest (l : Language F μ) : Guest (State F μ) where
  execute := l.run
  invoke := l.invoke
  releaseAll state := { state with closures := state.closures.drain.2 }

end ScriptHost.Desk
