import ScriptHost.Fault.Host
import ScriptHost.Ready.Queue

/-!
# Dispatch passes

A pass takes everything out of the queue at once and hands it to the guest, one callback after the
other.  What the guest enqueues meanwhile waits for the next pass.  A callback that raises is
counted and the pass goes on; one that panics ends the pass, and the rest of the batch is lost with
it.

Guest code runs on one thread only.  A dispatcher belongs to that thread and refuses every other.
-/

namespace ScriptHost.Ready

/-- How a piece of guest code ended. -/
inductive Finish (α : Type) where
  | returned (result : α)
  | raised (message : String)
  | panicked (message : String)
  deriving Inhabited

/-- What became of a callback handed to the guest. -/
inductive Invocation where
  | invoked
  /-- No closure is registered for the target. -/
  | skipped
  deriving DecidableEq, Inhabited

/-- The callbacks of a pass, counted by what became of them. -/
structure PassCounts where
  invoked : Nat
  skipped : Nat
  failed : Nat
  deriving DecidableEq, Inhabited

namespace PassCounts

/-- The counts of a pass that has handed nothing over. -/
def zero : PassCounts := ⟨0, 0, 0⟩

/-- All callbacks counted. -/
def total (n : PassCounts) : Nat := n.invoked + n.skipped + n.failed

/-- The counts as a datum. -/
def value (n : PassCounts) : Value :=
  .counts [("invoked", n.invoked), ("skipped", n.skipped), ("failed", n.failed),
    ("total", n.total)]

/-- Count one callback.  A panic is not counted. -/
def add (n : PassCounts) : Finish Invocation → PassCounts
  | .returned .invoked => { n with invoked := n.invoked + 1 }
  | .returned .skipped => { n with skipped := n.skipped + 1 }
  | .raised _ => { n with failed := n.failed + 1 }
  | .panicked _ => n

end PassCounts

/-- How the guest runs the closure of a ready callback, in a world of type `σ` that it may change. -/
abbrev Invoke (σ : Type) := Callback → σ → Finish Invocation × σ

/-- Hand the callbacks of a batch to the guest in order, up to one that panics: the counts, the
panic if there was one, and the world afterwards. -/
def deliver {σ : Type} (invoke : Invoke σ) :
    List Callback → PassCounts → σ → PassCounts × Option String × σ
  | [], counts, world => (counts, none, world)
  | c :: rest, counts, world =>
      match invoke c world with
      | (.panicked message, world) => (counts, some message, world)
      | (finish, world) => deliver invoke rest (counts.add finish) world

/-- One pass over the queue, which is the first part of the world. -/
def pass {σ : Type} (invoke : Invoke (Queue × σ)) (world : Queue × σ) :
    PassCounts × Option String × (Queue × σ) :=
  let (batch, queue) := world.1.drain
  deliver invoke batch .zero (queue, world.2)

/-- The right to run guest code, held by one thread. -/
structure Dispatcher where
  owner : Nat

/-- Ask for a pass on a thread.  On any other thread than the owner's nothing happens. -/
def Dispatcher.dispatch {σ : Type} (d : Dispatcher) (thread : Nat) (invoke : Invoke (Queue × σ))
    (world : Queue × σ) : Except HostFault (PassCounts × Option String) × (Queue × σ) :=
  if thread = d.owner then
    let (counts, panic, world) := pass invoke world
    (.ok (counts, panic), world)
  else (.error .wrongThread, world)

end ScriptHost.Ready
