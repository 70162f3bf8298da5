import ScriptHost.Data.Table

/-!
# Network handles

The guest knows connections, listeners and datagram sockets by handle numbers, which are given out
once across all three kinds.  Each handle carries a close signal that fires when the handle is
closed, so that whoever still waits on it can give up.

Closing is two steps: the handle leaves its table (`detach`), then its signal fires (`signal`).  An
operation that holds on to a handle sees the signal even when the table no longer lists the handle.
-/

namespace ScriptHost.Network

/-- The kinds of handles. -/
inductive Kind where
  | stream
  | listener
  | datagram
  deriving DecidableEq, Hashable, Inhabited

/-- The open handles, and the handles whose close signal has fired. -/
structure Handles where
  table : Table Nat Kind
  signalled : List Nat
  next : Nat

namespace Handles

/-- No handles yet. -/
def empty : Handles := ⟨.empty, [], 1⟩

instance : Inhabited Handles := ⟨empty⟩

/-- Whether a number is an open handle of a kind. -/
def isOpen (h : Handles) (kind : Kind) (id : Nat) : Bool := h.table.get? id = some kind

/-- Whether the close signal of a handle has fired. -/
def isSignalled (h : Handles) (id : Nat) : Bool := h.signalled.contains id

/-- Open a handle: its number. -/
def register (h : Handles) (kind : Kind) : Nat × Handles :=
  (h.next, { h with table := h.table.insert h.next kind, next := h.next + 1 })

/-- Take an open handle of a kind out of its table: whether there was one. -/
def detach (h : Handles) (kind : Kind) (id : Nat) : Bool × Handles :=
  if h.isOpen kind id then (true, { h with table := h.table.erase id }) else (false, h)

/-- Fire the close signal of a handle. -/
def signal (h : Handles) (id : Nat) : Handles := { h with signalled := id :: h.signalled }

/-- Close a handle of a kind: whether it was open. -/
def close (h : Handles) (kind : Kind) (id : Nat) : Bool × Handles :=
  let (found, h) := h.detach kind id
  (found, if found then h.signal id else h)

/-- Close every open handle: how many there were. -/
def closeAll (h : Handles) : Nat × Handles :=
  (h.table.size, { h with table := .empty, signalled := h.table.keys ++ h.signalled })

/-- The number of open handles of a kind. -/
def count (h : Handles) (kind : Kind) : Nat := (h.table.values.filter (· = kind)).length

/-- Open connections and datagram sockets. -/
def connections (h : Handles) : Nat := h.count .stream + h.count .datagram

/-- Open listeners. -/
def listeners (h : Handles) : Nat := h.count .listener

end Handles
end ScriptHost.Network
