import ScriptHost.Network.Coordinator
import ScriptHost.Timer.Clock

/-!
# The services of a host

What a host does for guest code: it keeps timers, runs network operations, and queues the callbacks
of both.  The three are shared by all threads.  Each function here is one step as far as other
threads can see, except for `tearDown`, which does one service after the other.
-/

namespace ScriptHost

open Ready (Queue Callback)
open Network (Coordinator Kind Request)

/-- The services, with the clock that the timers run on. -/
structure Services where
  timers : Timers
  queue : Queue
  network : Coordinator

/-- What tearing everything down has ended. -/
structure Teardown where
  cancelledTimers : Nat
  abortedTasks : Nat
  closedHandles : Nat
  droppedCallbacks : Nat
  deriving DecidableEq, Inhabited

/-- The report as a datum. -/
def Teardown.value (t : Teardown) : Value :=
  .counts [("cancelled_timers", t.cancelledTimers), ("aborted_tasks", t.abortedTasks),
    ("closed_handles", t.closedHandles), ("dropped_callbacks", t.droppedCallbacks)]

namespace Services

/-- Nothing to do, at time zero. -/
def idle : Services := ⟨.empty, .empty, .empty⟩

instance : Inhabited Services := ⟨idle⟩

/-- The time, in milliseconds. -/
def now (s : Services) : Nat := s.timers.now

/-- Create a timer: its number. -/
def createTimer (s : Services) (delay : Int) (repeating : Bool) :
    Except HostFault Nat × Services :=
  match s.timers.create delay repeating with
  | .error fault => (.error fault, s)
  | .ok (id, timers) => (.ok id, { s with timers })

/-- Cancel a timer and drop its queued firing: whether it was live. -/
def cancelTimer (s : Services) (id : Nat) : Bool × Services :=
  let (live, timers, queue) := s.timers.cancel s.queue id
  (live, { s with timers, queue })

/-- The wake-up of a timer that is due by now. -/
def wakeTimer (s : Services) (id : Nat) : Services :=
  if (s.timers.live.get? id).any (·.due ≤ s.now) then
    let (timers, queue) := s.timers.fireAt s.queue id s.now
    { s with timers, queue }
  else s

/-- Offer a callback to the queue: whether it was accepted. -/
def enqueue (s : Services) (c : Callback) : Bool × Services :=
  let (accepted, queue) := s.queue.enqueue c
  (accepted, { s with queue })

/-- Start a network operation. -/
def startOperation (s : Services) (request : Request) (completion : Nat) : Services :=
  { s with network := (s.network.start request completion).2 }

/-- A finished operation queues its callback. -/
def deliver (s : Services) (op : Nat) : Services :=
  let (network, queue) := s.network.deliver s.queue op
  { s with network, queue }

/-- Close a handle of a kind: whether it was open. -/
def close (s : Services) (kind : Kind) (id : Nat) : Bool × Services :=
  let (found, network) := s.network.close kind id
  (found, { s with network })

/-- Cancel all timers, abort all operations, close all handles and drop all callbacks, in this
order: what that has ended.  Queued firings of live timers go with their timers. -/
def tearDown (s : Services) : Teardown × Services :=
  let (cancelledTimers, timers, queue) := s.timers.cancelAll s.queue
  let (abortedTasks, network) := s.network.abortAll
  let (closedHandles, network) := network.closeAll
  let (droppedCallbacks, queue) := queue.clear
  (⟨cancelledTimers, abortedTasks, closedHandles, droppedCallbacks⟩, ⟨timers, queue, network⟩)

end Services
end ScriptHost
