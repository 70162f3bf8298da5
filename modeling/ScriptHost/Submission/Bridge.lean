import ScriptHost.Settings.Basic
import ScriptHost.Submission.Channel
import ScriptHost.Submission.Result
import ScriptHost.Submission.Stats

/-!
# The bridge

Any thread but the interpreter's own may submit source and wait for the result.  A submission is
counted and gets a number, which no other one has.  Its call then goes through stages:

* `entering`: its job waits for room in the channel;
* `awaiting`: its job has entered;
* `answered`: the result has been sent;
* `ended`: the caller has gone on, with the result or with a failure.

A caller whose time is over goes on at once, wherever its job is.  A job that has not entered by then
never will; one that has is still executed, and its result is dropped.
-/

namespace ScriptHost.Submission

open Guest (Request)

/-- The stages of a call. -/
inductive Stage where
  | entering
  | awaiting
  | answered (result : Result)
  | ended (how : Except HostFault Result)

/-- A call, with the time at which it was made. -/
structure Call where
  request : Request
  since : Nat
  stage : Stage

/-- When the time of a call is over; never if it may take endlessly long. -/
def Call.deadline? (call : Call) : Option Nat :=
  if endlessMillis ≤ call.request.timeoutMillis then none
  else some (call.since + call.request.timeoutMillis)

/-- All calls so far, and the counters. -/
structure Bridge where
  calls : Table Nat Call
  nextId : Nat
  stats : Stats

namespace Bridge

/-- No calls yet. -/
def empty : Bridge := ⟨.empty, 1, .zero⟩

instance : Inhabited Bridge := ⟨empty⟩

/-- The name of source that is submitted without one. -/
def anonymous : String := "=submit"

/-- Submit source at a time: the number of the call.  The interpreter itself must not wait for a
result that only it can bring about. -/
def submit (b : Bridge) (onInterpreter : Bool) (now : Nat) (source chunk : String)
    (timeoutMillis : Nat) : Except HostFault Nat × Bridge :=
  if onInterpreter then (.error .reentrant, b)
  else
    (.ok b.nextId,
      { calls := b.calls.insert b.nextId ⟨⟨b.nextId, source, chunk, timeoutMillis⟩, now, .entering⟩
        nextId := b.nextId + 1
        stats := b.stats.count .submitted })

/-- The stage of a call. -/
def stage? (b : Bridge) (id : Nat) : Option Stage := (b.calls.get? id).map (·.stage)

/-- Move a call to another stage. -/
def setStage (b : Bridge) (id : Nat) (stage : Stage) : Bridge :=
  { b with calls := b.calls.modify id fun call => { call with stage } }

/-- Let the job of a call enter the channel, if there is room.  Without an interpreter the call ends
with a failure. -/
def enter (b : Bridge) (channel : Channel) (id : Nat) : Bridge × Channel :=
  match b.calls.get? id with
  | some ⟨request, _, .entering⟩ =>
      match channel.send (.execute request) with
      | .ok channel => (b.setStage id .awaiting, channel)
      | .error .full => (b, channel)
      | .error .unattended => (b.setStage id (.ended (.error .shutDown)), channel)
  | _ => (b, channel)

/-- The failure of a caller whose time is over. -/
def timeout (request : Request) : HostFault :=
  .executionTimeout request.id (request.timeoutMillis * 1000)

/-- The time of a caller is over.  A result that has been sent still counts. -/
def giveUp (b : Bridge) (id : Nat) : Bridge :=
  match b.calls.get? id with
  | some ⟨request, _, .entering⟩ | some ⟨request, _, .awaiting⟩ =>
      { b.setStage id (.ended (.error (timeout request))) with stats := b.stats.count .timedOut }
  | _ => b

/-- Send a result.  Without a caller that waits for it the result is dropped. -/
def answer (b : Bridge) (id : Nat) (result : Result) : Bridge :=
  match b.calls.get? id with
  | some ⟨_, _, .awaiting⟩ => b.setStage id (.answered result)
  | _ => b

/-- A caller takes its result and goes on. -/
def collect (b : Bridge) (id : Nat) : Bridge :=
  match b.calls.get? id with
  | some ⟨_, _, .answered result⟩ => b.setStage id (.ended (.ok result))
  | _ => b

end Bridge
end ScriptHost.Submission
