import ScriptHost.Network.Isolated
import ScriptHost.Service.Basic

/-!
# Services on an exact clock

Network operations and timers of one host share a clock.  At each time operations go as far as they
go, and then timers that are due fire; as time passes the clock stops wherever the wait of an
operation for data ends.
-/

namespace ScriptHost

open Network (Isolated Sockets)

/-- Services with the sockets of their machine. -/
structure ExactServices where
  services : Services
  sockets : Sockets
  settings : NetworkSettings

namespace ExactServices

/-- Nothing to do, at time zero. -/
def idle (settings : NetworkSettings) : ExactServices := ⟨.idle, .none, settings⟩

/-- The machine on which the operations run. -/
def machine (x : ExactServices) : Isolated :=
  { x.sockets with
    coordinator := x.services.network
    queue := x.services.queue
    settings := x.settings
    now := x.services.now }

/-- The services after their machine has changed. -/
def withMachine (x : ExactServices) (m : Isolated) : ExactServices :=
  { x with
    services := { x.services with network := m.coordinator, queue := m.queue }
    sockets := m.toSockets }

/-- Let operations go as far as they go. -/
def operate (x : ExactServices) : ExactServices := x.withMachine x.machine.run

/-- Let everything happen that can happen now. -/
def settle (x : ExactServices) : ExactServices :=
  let x := x.operate
  let (timers, queue) := x.services.timers.settle x.services.queue
  { x with services := { x.services with timers, queue } }

/-- Fire the timers that are due by a time, set the clock to it, and let operations go on. -/
def passTo (x : ExactServices) (time : Nat) : ExactServices :=
  let (timers, queue) := x.services.timers.run x.services.queue time
  { x with
    services := { x.services with timers := { timers with now := max timers.now time }, queue } }.operate

/-- Let time pass. -/
def sleep (x : ExactServices) (millis : Nat) : ExactServices :=
  let limit := x.services.now + millis
  let stops := x.sockets.deadlines.values.filter (· ≤ limit)
  ((stops.mergeSort fun a b => decide (a ≤ b)).foldl passTo x).passTo limit

/-- Set the clock forward, and then let everything happen that can. -/
def jump (x : ExactServices) (millis : Nat) : ExactServices :=
  { x with services.timers.now := x.services.now + millis }.settle

end ExactServices
end ScriptHost
