import ScriptHost.Ready.Pass
import ScriptHost.Service.Basic

/-!
# Guest code

Guest code runs on one thread while other threads go on.  `Code ω α` is guest code on a world of type
`ω` as these others see it: a chain of steps, each of which changes the world at once, with pauses
in between, and an ending.  A step may choose how to go on by looking at the world; and code may wait
until the world allows it to go on.

There is no infinite chain of steps.  Code that never ends waits for what never comes.

A guest is the code that it runs for a submission and for a ready callback, with a state of its own
of type `σ`, which only its own code and `releaseAll` change.
-/

namespace ScriptHost

namespace Guest

open Ready (Finish)

/-- Guest code on a world, with results of type `α`. -/
inductive Code (ω α : Type) where
  | finish (ending : Finish α)
  /-- Change the world, and go on as the world before the change tells. -/
  | step (change : ω → ω) (next : ω → Code ω α)
  /-- Wait until the world allows it. -/
  | await (ready : ω → Bool) (next : Code ω α)

instance {ω α : Type} : Inhabited (Code ω α) := ⟨.finish default⟩

namespace Code

variable {ω α β : Type}

/-- Code that does nothing but return. -/
def return_ (result : α) : Code ω α := .finish (.returned result)

/-- Code that does nothing but raise. -/
def raise (message : String) : Code ω α := .finish (.raised message)

/-- One step with an answer. -/
def act (f : ω → α × ω) : Code ω α := .step (fun w => (f w).2) fun w => return_ (f w).1

/-- Look at the world. -/
def look (f : ω → α) : Code ω α := .step id fun w => return_ (f w)

/-- Change the world. -/
def change (f : ω → ω) : Code ω Unit := .step f fun _ => return_ ()

/-- Go on with the result of code.  Code that does not return ends the whole. -/
def andThen : Code ω α → (α → Code ω β) → Code ω β
  | .finish (.returned a), k => k a
  | .finish (.raised message), _ => .finish (.raised message)
  | .finish (.panicked message), _ => .finish (.panicked message)
  | .step change next, k => .step change fun w => (next w).andThen k
  | .await ready next, k => .await ready (next.andThen k)

instance : Monad (Code ω) where
  pure := return_
  bind := andThen

/-- Run code while nothing else happens: how it ends, if it does not wait for something that does
not come, and the world afterwards. -/
def run : Code ω α → ω → Option (Finish α) × ω
  | .finish ending, w => (some ending, w)
  | .step change next, w => (next w).run (change w)
  | .await ready next, w => if ready w then next.run w else (none, w)

/-- What code does next on a world: an ending, code that goes on with the world changed, or nothing
while it has to wait. -/
def advance : Code ω α → ω → Option (Finish α ⊕ Code ω α) × ω
  | .finish ending, w => (some (.inl ending), w)
  | .step change next, w => (some (.inr (next w)), change w)
  | .await ready next, w => (if ready w then some (.inr next) else none, w)

end Code

/-- What is submitted to a guest. -/
structure Request where
  id : Nat
  source : String
  /-- The name of the source in messages. -/
  chunk : String
  timeoutMillis : Nat
  deriving DecidableEq, Inhabited

end Guest

open Guest (Code Request)
open Ready (Callback Invocation Invoke Queue)

/-- How a guest runs. -/
structure Guest (σ : Type) where
  execute : Request → Code (Services × σ) Value
  invoke : Callback → Code (Services × σ) Invocation
  /-- Drop every registered closure. -/
  releaseAll : σ → σ

/-- The guest as it takes part in a dispatch pass that nothing interrupts.  Code that waits in a pass
would never be let go on; it counts as a panic. -/
def Guest.callback {σ : Type} (g : Guest σ) : Invoke (Queue × (Services × σ)) := fun c world =>
  let (queue, services, state) := world
  match (g.invoke c).run ({ services with queue }, state) with
  | (some ending, services, state) => (ending, services.queue, services, state)
  | (none, services, state) => (.panicked "", services.queue, services, state)

end ScriptHost
