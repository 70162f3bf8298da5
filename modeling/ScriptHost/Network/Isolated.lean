import ScriptHost.Network.Coordinator
import ScriptHost.Network.Url
import ScriptHost.Settings.Basic

/-!
# A machine without routes

Here network operations run on a machine on which sockets can be bound and nothing can be reached,
not even the machine itself: listeners wait for connections that never come, connecting and sending
fail, and receiving finds nothing.  Time is an exact clock in milliseconds; everything that can run
runs before the clock moves on.

Peers are sockets of other programs on the same machine.  They share its ports and its isolation.
-/

namespace ScriptHost.Network

open Ready (Queue Callback)

/-- The two transports, each with ports of its own. -/
inductive Transport where
  | stream
  | datagram
  deriving DecidableEq

/-- A port of a transport. -/
abbrev Port := Transport × Nat

/-- The sockets of the machine. -/
structure Sockets where
  /-- When the wait of an operation for data ends. -/
  deadlines : Table Nat Nat
  /-- The ports of handles. -/
  ports : Table Nat Port
  /-- The ports of peers. -/
  peers : Table String Port
  nextPort : Nat

/-- No sockets yet. -/
def Sockets.none : Sockets := ⟨.empty, .empty, .empty, 49152⟩

/-- The machine with the operations that run on it. -/
structure Isolated extends Sockets where
  coordinator : Coordinator
  queue : Queue
  settings : NetworkSettings
  now : Nat

namespace Isolated

/-- A machine on which nothing has happened yet. -/
def start (settings : NetworkSettings) : Isolated := ⟨.none, .empty, .empty, settings, 0⟩

/-- Whether a host is written as an address of the newer kind. -/
def isLongAddress (host : String) : Bool := host.contains ':'

/-- Whether an address belongs to the machine. -/
def isOwnAddress (host : String) : Bool := host.startsWith "127." || host = "0.0.0.0"

/-- Whether a port is taken by an open handle or by a peer. -/
def isTaken (m : Isolated) (port : Port) : Bool :=
  m.peers.values.contains port ||
    m.ports.entries.any fun (id, p) => p = port && m.coordinator.handles.table.contains id

/-- Take a port for a socket; a free one is chosen if none is asked for. -/
def bind (m : Isolated) (transport : Transport) (host : String) (port : Nat) :
    Except IoFault (Nat × Isolated) :=
  if !isOwnAddress host then .error (.ofNumber 99)
  else if port = 0 then .ok (m.nextPort, { m with nextPort := m.nextPort + 1 })
  else if m.isTaken (transport, port) then .error (.ofNumber 98)
  else .ok (port, m)

/-- The failure of an attempt to reach an address. -/
def unreachable (host : String) : IoFault := .ofNumber (if isLongAddress host then 99 else 101)

/-- The failure of an attempt to send a datagram. -/
def undeliverable (host : String) (port : Nat) : IoFault :=
  .ofNumber (if isLongAddress host then 97 else if port = 0 then 22 else 101)

/-- The client of the machine. -/
def client : Http.Client Url := { Http.Client.rules with read := Url.web }

/-- What the client says of a draft: it has no address to send to, or finds no way there. -/
def noResponse (draft : Http.Draft) : String :=
  match draft.message client with
  | .ok message => "error sending request for url (" ++ message.url.text ++ ")"
  | .error (.http cause) => cause
  | .error cause => cause.message

/-- Bind a socket for an operation, and note the port of the handle that it gets. -/
def bindFor (m : Isolated) (op : Nat) (transport : Transport) (host : String) (port : Nat) :
    Isolated :=
  match m.bind transport host port with
  | .error cause => { m with coordinator := m.coordinator.reply op (.fault cause) }
  | .ok (port, m) =>
      let handle := m.coordinator.handles.next
      { m with
        coordinator := m.coordinator.reply op (.bound (host ++ ":" ++ toString port))
        ports := m.ports.insert handle (transport, port) }

/-- Let the system reply to a waiting operation, if it has something to say at once. -/
def reply (m : Isolated) (op : Nat) : Request → Isolated
  | .connect host _ =>
      { m with coordinator := m.coordinator.reply op (.fault (unreachable host)) }
  | .listen host port => m.bindFor op .stream host port
  | .bind host port => m.bindFor op .datagram host port
  | .send _ host port _ =>
      { m with coordinator := m.coordinator.reply op (.fault (undeliverable host port)) }
  | .receive _ _ | .read _ _ =>
      if m.settings.readTimeoutMillis = 0 then
        { m with coordinator := m.coordinator.reply op (.fault (.ofKind .wouldBlock)) }
      else
        match m.deadlines.get? op with
        | none => { m with deadlines := m.deadlines.insert op (m.now + m.settings.readTimeoutMillis) }
        | some deadline =>
            if deadline ≤ m.now then
              { m with coordinator := m.coordinator.reply op (.fault (.ofKind .timedOut)) }
            else m
  | .fetch draft =>
      { m with coordinator := m.coordinator.reply op (.noResponse (noResponse draft)) }
  | .accept _ | .write _ _ => m

/-- Let a waiting operation go on: it gives up if its handle is closed, and may get a reply
otherwise. -/
def advance (m : Isolated) (op : Nat) : Isolated :=
  let m := { m with coordinator := m.coordinator.giveUp op }
  match m.coordinator.operations.get? op with
  | some ⟨_, request, .waiting⟩ => m.reply op request
  | _ => m

/-- Run one operation as far as it goes at this time. -/
def runOne (m : Isolated) (op : Nat) : Isolated :=
  let m := { m with coordinator := m.coordinator.begin op }.advance op
  let (coordinator, queue) := m.coordinator.deliver m.queue op
  let coordinator := coordinator.retire op
  { m with
    coordinator, queue
    deadlines := if coordinator.operations.contains op then m.deadlines else m.deadlines.erase op }

/-- Run every operation as far as it goes at this time. -/
def run (m : Isolated) : Isolated := m.coordinator.operations.keys.foldl runOne m

/-- The next time at which a wait for data ends. -/
def nextDeadline (m : Isolated) : Option Nat := m.deadlines.values.min?

/-- Run, and let the clock go on from deadline to deadline until so many callbacks are queued or no
wait will end any more.  `steps` bounds the number of deadlines passed. -/
def runUntil (expected : Nat) : Nat → Isolated → Isolated
  | 0, m => m.run
  | steps + 1, m =>
      let m := m.run
      if expected ≤ m.queue.size then m
      else match m.nextDeadline with
        | none => m
        | some time => runUntil expected steps { m with now := max m.now time }

/-- Run until so many callbacks are queued, if ever. -/
def await (m : Isolated) (expected : Nat) : Isolated :=
  runUntil expected (m.coordinator.operations.size + 1) m

/-- Let time pass. -/
def pause (m : Isolated) (millis : Nat) : Isolated :=
  let due := (m.deadlines.values.filter (· ≤ m.now + millis)).length
  let m := (List.range due).foldl (fun m _ =>
    match m.nextDeadline with
    | some time => if time ≤ m.now + millis then { m with now := max m.now time }.run else m
    | none => m) m.run
  { m with now := m.now + millis }.run

/-- Start an operation. -/
def launch (m : Isolated) (request : Request) (completion : Nat) : Isolated :=
  { m with coordinator := (m.coordinator.start request completion).2 }

/-- Close a handle of a kind: whether it was open. -/
def close (m : Isolated) (kind : Kind) (id : Nat) : Bool × Isolated :=
  let (found, coordinator) := m.coordinator.close kind id
  (found, { m with coordinator })

/-- Close every open handle: how many there were. -/
def closeAll (m : Isolated) : Nat × Isolated :=
  let (count, coordinator) := m.coordinator.closeAll
  (count, { m with coordinator })

/-- Abort every operation: how many there were. -/
def abortAll (m : Isolated) : Nat × Isolated :=
  let (count, coordinator) := m.coordinator.abortAll
  (count, { m with coordinator, deadlines := .empty })

/-- Take everything out of the queue. -/
def drain (m : Isolated) : List Callback × Isolated :=
  let (batch, queue) := m.queue.drain
  (batch, { m with queue })

/-- What a peer does. -/
inductive PeerAction where
  /-- Open a socket of a transport. -/
  | open (transport : Transport)
  | connect
  /-- Send a datagram to a port. -/
  | send (port : Nat)
  /-- Wait for something to come in at the peer's socket, or for a connection to its listener. -/
  | receive
  /-- Use a connection that the peer has. -/
  | use
  | close

/-- What comes of it. -/
inductive PeerAnswer where
  | done
  | fault (cause : IoFault)
  /-- The peer has no such socket. -/
  | absent

/-- Let a peer act.  A peer never has a connection, since none can be made here. -/
def peer (m : Isolated) (name : String) : PeerAction → PeerAnswer × Isolated
  | .open transport =>
      (.done,
        { m with
          peers := m.peers.insert name (transport, m.nextPort)
          nextPort := m.nextPort + 1 })
  | .connect => (.fault (.ofNumber 101), m)
  | .send port =>
      if m.peers.contains name then (.fault (undeliverable "" port), m) else (.absent, m)
  | .receive => if m.peers.contains name then (.fault (.ofNumber 11), m) else (.absent, m)
  | .use => (.absent, m)
  | .close => (.done, { m with peers := m.peers.erase name })

end Isolated
end ScriptHost.Network
