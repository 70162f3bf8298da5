import ScriptHost.Network.Coordinator

/-!
# The bytes of a connection

Reads of one connection take turns, and so do writes: an operation asks for its turn when its task is
run for the first time, and turns are given in the order of asking, which need not be the order in
which the operations were started.  A write keeps its turn until the system has taken all its bytes,
piece by piece.  A read gives its turn back as soon as it has got bytes, before its callback is
queued.
-/

namespace ScriptHost.Network

/-- Turns at one side of a connection: who has it, with what it still wants, and who waits, in the
order of asking. -/
structure Turns (α : Type) where
  current : Option (Nat × α)
  waiting : List (Nat × α)

namespace Turns

variable {α : Type}

/-- Nobody wants a turn. -/
def free : Turns α := ⟨none, []⟩

/-- An operation asks for a turn. -/
def ask (t : Turns α) (op : Nat) (want : α) : Turns α :=
  match t.current with
  | none => { t with current := some (op, want) }
  | some _ => { t with waiting := t.waiting ++ [(op, want)] }

/-- The current turn ends, and the next one begins. -/
def pass (t : Turns α) : Turns α := ⟨t.waiting.head?, t.waiting.tail⟩

/-- An operation wants no turn any more. -/
def leave (t : Turns α) (op : Nat) : Turns α :=
  match t.current with
  | some (holder, _) =>
      if holder = op then t.pass else { t with waiting := t.waiting.filter (·.1 ≠ op) }
  | none => t

end Turns

/-- A connection with the bytes on their way through it. -/
structure Stream where
  /-- The bytes that have come in and have not been read. -/
  incoming : List UInt8
  readers : Turns Nat
  /-- The bytes that have gone out, in order. -/
  outgoing : List UInt8
  writers : Turns (List UInt8)

/-- A connection without bytes. -/
def Stream.quiet : Stream := ⟨[], .free, [], .free⟩

instance : Inhabited Stream := ⟨.quiet⟩

/-- The operations, with the bytes of their connections. -/
structure Streams where
  coordinator : Coordinator
  connections : Table Nat Stream

namespace Streams

/-- The bytes of a connection; there are none as long as nothing has happened on it. -/
def stream (s : Streams) (id : Nat) : Stream := (s.connections.get? id).getD .quiet

/-- Change a connection. -/
def update (s : Streams) (id : Nat) (f : Stream → Stream) : Streams :=
  { s with connections := s.connections.insert id (f (s.stream id)) }

/-- Run an operation for the first time: a read or a write that finds its connection asks for its
turn. -/
def begin (s : Streams) (op : Nat) : Streams :=
  let before := s.coordinator.operations.get? op
  let s := { s with coordinator := s.coordinator.begin op }
  match before, s.coordinator.operations.get? op with
  | some ⟨_, _, .spawned⟩, some ⟨_, .read id limit, .waiting⟩ =>
      s.update id fun c => { c with readers := c.readers.ask op limit }
  | some ⟨_, _, .spawned⟩, some ⟨_, .write id data, .waiting⟩ =>
      s.update id fun c => { c with writers := c.writers.ask op data.toList }
  | _, _ => s

/-- Bytes come in on a connection. -/
def arrive (s : Streams) (id : Nat) (bytes : List UInt8) : Streams :=
  s.update id fun c => { c with incoming := c.incoming ++ bytes }

/-- The read whose turn it is gets what has come in, up to its limit. -/
def read (s : Streams) (id : Nat) : Streams :=
  let c := s.stream id
  match c.readers.current, c.incoming with
  | some (op, limit), _ :: _ =>
      let chunk := c.incoming.take limit
      let s := s.update id fun c =>
        { c with incoming := c.incoming.drop limit, readers := c.readers.pass }
      { s with coordinator := s.coordinator.reply op (.bytes ⟨chunk.toArray⟩) }
  | _, _ => s

/-- The read whose turn it is ends with a failure, or because the stream has ended. -/
def readFault (s : Streams) (id : Nat) (r : Reply) : Streams :=
  match (s.stream id).readers.current with
  | some (op, _) =>
      let s := s.update id fun c => { c with readers := c.readers.pass }
      { s with coordinator := s.coordinator.reply op r }
  | none => s

/-- The system takes so many bytes of the write whose turn it is. -/
def accept (s : Streams) (id count : Nat) : Streams :=
  s.update id fun c =>
    match c.writers.current with
    | some (op, rest) =>
        { c with
          outgoing := c.outgoing ++ rest.take count
          writers := { c.writers with current := some (op, rest.drop count) } }
    | none => c

/-- The write whose turn it is has no bytes left, and is done. -/
def finish (s : Streams) (id : Nat) : Streams :=
  match (s.stream id).writers.current with
  | some (op, []) =>
      let s := s.update id fun c => { c with writers := c.writers.pass }
      { s with coordinator := s.coordinator.reply op .written }
  | _ => s

/-- A waiting operation gives up because its connection has been closed. -/
def giveUp (s : Streams) (op : Nat) : Streams :=
  let before := s.coordinator.operations.get? op
  let s := { s with coordinator := s.coordinator.giveUp op }
  match before, s.coordinator.operations.get? op with
  | some ⟨_, .read id _, .waiting⟩, some ⟨_, _, .finished _⟩ =>
      s.update id fun c => { c with readers := c.readers.leave op }
  | some ⟨_, .write id _, .waiting⟩, some ⟨_, _, .finished _⟩ =>
      s.update id fun c => { c with writers := c.writers.leave op }
  | _, _ => s

end Streams
end ScriptHost.Network
