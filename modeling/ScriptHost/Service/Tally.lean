import ScriptHost.Quiescence.Tally
import ScriptHost.Service.Basic

/-!
# Taking the tally of the services

A tally is taken by reading six counts one after the other, each from the service that keeps it.
Other threads may run between two readings, so the six counts need not belong to one moment; `taken`
says what comes out when they go by the order of `Count.order`.
-/

namespace ScriptHost.Quiescence

/-- The counts of a tally. -/
inductive Count where
  | backgroundTasks
  | activeTimers
  | networkOperations
  | openConnections
  | openListeners
  | queuedCallbacks
  deriving DecidableEq

namespace Count

/-- The order in which the counts are read. -/
def order : List Count :=
  [backgroundTasks, activeTimers, networkOperations, openConnections, openListeners,
    queuedCallbacks]

/-- The name of a count. -/
def name : Count → String
  | backgroundTasks => "background_tasks"
  | activeTimers => "active_timers"
  | networkOperations => "network_operations"
  | openConnections => "open_connections"
  | openListeners => "open_listeners"
  | queuedCallbacks => "queued_callbacks"

/-- Read a count from the services. -/
def read (s : Services) : Count → Nat
  | backgroundTasks => s.network.operations.size
  | activeTimers => s.timers.size
  | networkOperations => s.network.active
  | openConnections => s.network.handles.connections
  | openListeners => s.network.handles.listeners
  | queuedCallbacks => s.queue.size

end Count

namespace Tally

/-- Enter a count into a tally. -/
def enter (t : Tally) (count : Count) (n : Nat) : Tally :=
  match count with
  | .backgroundTasks => { t with backgroundTasks := n.toUInt64 }
  | .activeTimers => { t with activeTimers := n.toUInt64 }
  | .networkOperations => { t with networkOperations := n.toUInt64 }
  | .openConnections => { t with openConnections := n.toUInt64 }
  | .openListeners => { t with openListeners := n.toUInt64 }
  | .queuedCallbacks => { t with queuedCallbacks := n.toUInt64 }

/-- A count in a tally. -/
def count (t : Tally) : Count → UInt64
  | .backgroundTasks => t.backgroundTasks
  | .activeTimers => t.activeTimers
  | .networkOperations => t.networkOperations
  | .openConnections => t.openConnections
  | .openListeners => t.openListeners
  | .queuedCallbacks => t.queuedCallbacks

/-- The tally as a datum. -/
def value (t : Tally) : Value :=
  .counts (Count.order.map fun c => (c.name, (t.count c).toNat))

/-- The tally whose counts are read from the services as they are at the moment of each reading. -/
def taken (at_ : Count → Services) : Tally :=
  Count.order.foldl (fun t count => t.enter count (count.read (at_ count))) .zero

/-- The tally that is taken while nothing else happens. -/
def ofServices (s : Services) : Tally := taken fun _ => s

end Tally
end ScriptHost.Quiescence
