import ScriptHost.Data.Value
import ScriptHost.Fault.Network
import ScriptHost.Network.Handles
import ScriptHost.Network.Http
import ScriptHost.Ready.Callback
import ScriptHost.Text.Utf8

/-!
# Network operations and their outcomes

An operation asks the system for one thing and has one outcome.  `conclude` says what a reply of the
system means: which outcome the operation has, and what becomes of its handle.  A reader that is told
that nothing is there yet keeps its connection and has no data; only the end of the stream and a
failure that is not transient close a connection.  Datagram sockets have no connection to lose and
are never closed by an operation.
-/

namespace ScriptHost.Network

open Ready (Outcome)

/-- What an operation asks for. -/
inductive Request where
  | connect (host : String) (port : Nat)
  | listen (host : String) (port : Nat)
  | accept (listener : Nat)
  | read (connection : Nat) (limit : Nat)
  | write (connection : Nat) (data : ByteArray)
  | bind (host : String) (port : Nat)
  | send (socket : Nat) (host : String) (port : Nat) (data : ByteArray)
  | receive (socket : Nat) (limit : Nat)
  | fetch (draft : Http.Draft)
  deriving Inhabited

/-- The handle that an operation works on, with the kind that it must have. -/
def Request.handle? : Request → Option (Kind × Nat)
  | connect _ _ | listen _ _ | bind _ _ | fetch _ => none
  | accept id => some (.listener, id)
  | read id _ | write id _ => some (.stream, id)
  | send id _ _ _ | receive id _ => some (.datagram, id)

/-- Why an operation fails before the system is asked: its handle is not open, or it has no message to
send.  Whether there is anything at the address of a message is for the system to say. -/
def Request.obstacle? (h : Handles) (r : Request) : Option NetworkFault :=
  match r with
  | fetch draft =>
      match draft.message .rules with
      | .ok _ => none
      | .error cause => some cause
  | r =>
      match r.handle? with
      | some (kind, id) => if h.isOpen kind id then none else some (.unknownHandle id)
      | none => none

/-- What the system says to an operation. -/
inductive Reply where
  | connected
  /-- A socket is bound to an address. -/
  | bound (address : String)
  | accepted (peer : String)
  /-- Bytes of a stream; none at its end. -/
  | bytes (data : ByteArray)
  /-- All bytes have been written. -/
  | written
  | sent (count : Nat)
  | datagram (data : ByteArray) (peer : String)
  | response (r : Http.Response)
  /-- No response will come. -/
  | noResponse (cause : String)
  | fault (cause : IoFault)
  deriving Inhabited

/-- The failure of a connection that its peer has ended. -/
def endOfStream : IoFault := .described .unexpectedEof "connection closed by peer"

/-- A failed outcome. -/
def failed (cause : NetworkFault) : Outcome := .failure cause.message

/-- A success that delivers a value. -/
def delivered (v : Value) : Outcome := .success (.value v)

/-- A success that delivers a new handle with an address. -/
def deliveredHandle (label : String) (id : Nat) (addressLabel address : String) : Outcome :=
  delivered (.object [(label, .int id), (addressLabel, .string address)])

/-- Lose a connection: it is closed, and the operation that met the failure fails. -/
def lose (h : Handles) (id : Nat) (cause : IoFault) : Outcome × Handles :=
  (failed (.lost cause), (h.close .stream id).2)

/-- What a reply of the system means for an operation and for the handles.  A reply that does not
answer the request is a failure of the system. -/
def conclude (h : Handles) : Request → Reply → Outcome × Handles
  | .connect _ _, .connected =>
      let (id, h) := h.register .stream
      (delivered (.int id), h)
  | .listen _ _, .bound address =>
      let (id, h) := h.register .listener
      (deliveredHandle "listener" id "addr" address, h)
  | .bind _ _, .bound address =>
      let (id, h) := h.register .datagram
      (deliveredHandle "socket" id "addr" address, h)
  | .accept _, .accepted peer =>
      let (id, h) := h.register .stream
      (deliveredHandle "conn" id "peer" peer, h)
  | .read id _, .bytes data =>
      if data.size = 0 then lose h id endOfStream else (.success (.bytes data), h)
  | .read id _, .fault cause =>
      if cause.isTransient then (.noData, h) else lose h id cause
  | .write _ data, .written => (delivered (.int data.size), h)
  | .write id _, .fault cause =>
      if cause.isTransient then (failed (.io cause), h) else lose h id cause
  | .send _ _ _ _, .sent count => (delivered (.int count), h)
  | .receive _ _, .datagram data peer =>
      (delivered (.object [("data", .string (Text.lossy data)), ("peer", .string peer)]), h)
  | .receive _ _, .fault cause =>
      if cause.isTransient then (.noData, h) else (failed (.io cause), h)
  | .fetch _, .response r => (delivered r.value, h)
  | .fetch _, .noResponse cause => (failed (.http cause), h)
  | _, .fault cause => (failed (.io cause), h)
  | _, _ => (failed (.io (.ofKind .other)), h)

end ScriptHost.Network
