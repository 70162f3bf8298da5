import ScriptHost.Guest.Code
import ScriptHost.Service.Exact

/-!
# A guest by itself

A guest with its services on an exact clock, without a host around them: its code runs when it is
asked to, and time passes only in between.
-/

namespace ScriptHost.Guest

open Ready (Dispatcher Finish PassCounts)

/-- A guest whose state is of type `σ`, with its services. -/
structure Solo (σ : Type) where
  exact : ExactServices
  state : σ

namespace Solo

variable {σ α : Type}

/-- Change the services. -/
def withServices (x : Solo σ) (services : Services) : Solo σ :=
  { x with exact := { x.exact with services } }

/-- Run code: how it ends, if it does not wait for ever. -/
def run (x : Solo σ) (code : Code (Services × σ) α) : Option (Finish α) × Solo σ :=
  let (ending, services, state) := code.run (x.exact.services, x.state)
  (ending, { x.withServices services with state })

/-- Ask for a pass over the queue on a thread. -/
def dispatch (x : Solo σ) (g : Guest σ) (d : Dispatcher) (thread : Nat) :
    Except HostFault (PassCounts × Option String) × Solo σ :=
  let services := x.exact.services
  let (ended, queue, services, state) :=
    d.dispatch thread g.callback (services.queue, services, x.state)
  (ended, { x.withServices { services with queue } with state })

/-- Drop every closure. -/
def releaseAll (x : Solo σ) (g : Guest σ) : Solo σ := { x with state := g.releaseAll x.state }

/-- Let everything happen that can happen now. -/
def settle (x : Solo σ) : Solo σ := { x with exact := x.exact.settle }

end Solo
end ScriptHost.Guest
