import ScriptHost.Network.Operation
import ScriptHost.Ready.Queue

/-!
# Running network operations

Each operation is a task of its own.  It is counted as active before it is spawned and until its
result has been queued.  The stages of its life are the points at which other tasks may run in
between:

* `spawned`: counted, and not yet run for the first time;
* `waiting`: its handle, if it has one, has been found, and the system has not replied;
* `finished`: the outcome is known and the handles say so, and the callback is not queued;
* `queued`: the callback is queued, and the operation is still counted.

The decrement of the count belongs to the task: it is made when the task ends in whatever way after
it has run for the first time.  A task that is aborted before that takes its count with it.
-/

namespace ScriptHost.Network

open Ready (Outcome Queue)

/-- The stages of an operation's life. -/
inductive Stage where
  | spawned
  | waiting
  | finished (outcome : Outcome)
  | queued
  deriving Inhabited

/-- An operation whose task has not ended. -/
structure Operation where
  completion : Nat
  request : Request
  stage : Stage
  deriving Inhabited

/-- The handles, the count of active operations, and the operations by number. -/
structure Coordinator where
  handles : Handles
  active : Nat
  operations : Table Nat Operation
  nextOperation : Nat

namespace Coordinator

/-- Nothing open and nothing running. -/
def empty : Coordinator := ⟨.empty, 0, .empty, 0⟩

instance : Inhabited Coordinator := ⟨empty⟩

/-- Start an operation whose callback will be a given completion: its number. -/
def start (c : Coordinator) (request : Request) (completion : Nat) : Nat × Coordinator :=
  (c.nextOperation,
    { c with
      active := c.active + 1
      operations := c.operations.insert c.nextOperation ⟨completion, request, .spawned⟩
      nextOperation := c.nextOperation + 1 })

/-- Move an operation to another stage. -/
def setStage (c : Coordinator) (op : Nat) (stage : Stage) : Coordinator :=
  { c with operations := c.operations.modify op fun o => { o with stage } }

/-- Run an operation for the first time: it looks its handle up, and fails if there is none. -/
def begin (c : Coordinator) (op : Nat) : Coordinator :=
  match c.operations.get? op with
  | some ⟨_, request, .spawned⟩ =>
      match request.obstacle? c.handles with
      | some cause => c.setStage op (.finished (failed cause))
      | none => c.setStage op .waiting
  | _ => c

/-- The system replies to a waiting operation. -/
def reply (c : Coordinator) (op : Nat) (r : Reply) : Coordinator :=
  match c.operations.get? op with
  | some ⟨_, request, .waiting⟩ =>
      let (outcome, handles) := conclude c.handles request r
      { c with handles }.setStage op (.finished outcome)
  | _ => c

/-- A waiting operation gives up because its handle has been closed. -/
def giveUp (c : Coordinator) (op : Nat) : Coordinator :=
  match c.operations.get? op with
  | some ⟨_, request, .waiting⟩ =>
      match request.handle? with
      | some (_, id) =>
          if c.handles.isSignalled id then c.setStage op (.finished (failed (.closed id))) else c
      | none => c
  | _ => c

/-- A finished operation queues its callback. -/
def deliver (c : Coordinator) (q : Queue) (op : Nat) : Coordinator × Queue :=
  match c.operations.get? op with
  | some ⟨completion, _, .finished outcome⟩ =>
      (c.setStage op .queued, (q.enqueue (.completion completion outcome)).2)
  | _ => (c, q)

/-- An operation that has queued its callback ends. -/
def retire (c : Coordinator) (op : Nat) : Coordinator :=
  match c.operations.get? op with
  | some ⟨_, _, .queued⟩ =>
      { c with active := c.active - 1, operations := c.operations.erase op }
  | _ => c

/-- The task of an operation is dropped, by an abort or by a panic.  The count is decremented only if
the task has run before. -/
def drop (c : Coordinator) (op : Nat) : Coordinator :=
  match c.operations.get? op with
  | some ⟨_, _, .spawned⟩ => { c with operations := c.operations.erase op }
  | some _ => { c with active := c.active - 1, operations := c.operations.erase op }
  | none => c

/-- Abort every operation: how many there were. -/
def abortAll (c : Coordinator) : Nat × Coordinator :=
  (c.operations.size, c.operations.keys.foldl drop c)

/-- Close a handle of a kind: whether it was open. -/
def close (c : Coordinator) (kind : Kind) (id : Nat) : Bool × Coordinator :=
  let (found, handles) := c.handles.close kind id
  (found, { c with handles })

/-- Close every open handle: how many there were. -/
def closeAll (c : Coordinator) : Nat × Coordinator :=
  let (count, handles) := c.handles.closeAll
  (count, { c with handles })

/-- Whether anything is running or open. -/
def isBusy (c : Coordinator) : Bool :=
  0 < c.active || 0 < c.handles.connections || 0 < c.handles.listeners

end Coordinator
end ScriptHost.Network
