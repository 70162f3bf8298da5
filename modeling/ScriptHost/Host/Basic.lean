import ScriptHost.Submission.Bridge

/-!
# The host

A host runs guest code on one thread, the interpreter's.  The interpreter chooses between a job and
the wake-up token of the queue; after either it makes one pass over the queue.  Between its steps
other threads submit source, give up, let timers fire and let operations go on.  `Event` lists
everything that can happen in one step, and `Host.react` says what it does, so that a run of a host is
a list of events.

A panic of submitted source is a failed result like any other.  A panic of a callback ends the
interpreter.
-/

namespace ScriptHost

open Ready (Callback Invocation PassCounts)
open Guest (Code Request)
open Network (Reply)
open Submission (Bridge Channel Result)

/-- What the interpreter is doing. -/
inductive Interpreter (σ : Type) where
  | selecting
  | executing (request : Request) (since : Nat) (code : Code (Services × σ) Value)
  /-- An execution has ended and is not counted yet. -/
  | executed (request : Request) (result : Result)
  /-- It is counted as completed, and not yet as failed if it has. -/
  | completed (request : Request) (result : Result)
  /-- All is counted, and the result is to be sent. -/
  | counted (request : Request) (result : Result)
  /-- A pass over the queue is about to begin. -/
  | draining
  /-- The rest of a batch is still to be handed to the guest. -/
  | passing (rest : List Callback) (counts : PassCounts)
  | invoking (code : Code (Services × σ) Invocation) (rest : List Callback) (counts : PassCounts)
  | stopped
  | crashed (message : String)

/-- A host with a guest whose state is of type `σ`. -/
structure Host (σ : Type) where
  services : Services
  guest : σ
  bridge : Bridge
  channel : Channel
  interpreter : Interpreter σ
  /-- Whether the host has not been dropped. -/
  held : Bool
  /-- The bridges that are still there besides the host's own. -/
  bridges : Nat

/-- How the making of a guest ends. -/
inductive Startup (σ : Type) where
  | ready (guest : σ)
  | failed (cause : HostFault)
  | panicked

/-- What happens to a host in one step. -/
inductive Event where
  /-- Another thread, or the interpreter's own, submits source. -/
  | submit (onInterpreter : Bool) (source chunk : String) (timeoutMillis : Nat)
  | enter (call : Nat)
  | giveUp (call : Nat)
  | collect (call : Nat)
  /-- The interpreter takes a job. -/
  | takeJob
  /-- The interpreter takes the wake-up token. -/
  | takeToken
  /-- The interpreter finds that no job can ever come. -/
  | disconnect
  /-- The interpreter does its next step. -/
  | work
  | elapse (millis : Nat)
  | wakeTimer (id : Nat)
  | cancelTimer (id : Nat)
  | begin (op : Nat)
  | reply (op : Nat) (r : Reply)
  | giveUpOperation (op : Nat)
  | deliver (op : Nat)
  | retire (op : Nat)
  | offer (c : Callback)
  | signal
  | discard (timer : Nat)
  | tearDown
  /-- Somebody asks the interpreter to stop. -/
  | stop
  /-- Whoever asked for it finds that the interpreter has ended. -/
  | conclude
  | drop
  | cloneBridge
  | dropBridge

namespace Host

variable {σ : Type}

/-- A host whose guest has just been made. -/
def fresh (jobCapacity : Nat) (guest : σ) : Host σ :=
  ⟨.idle, guest, .empty, .ofCapacity jobCapacity, .selecting, true, 0⟩

/-- Start a host. -/
def start (jobCapacity : Nat) : Startup σ → Except HostFault (Host σ)
  | .ready guest => .ok (fresh jobCapacity guest)
  | .failed cause => .error (.startup cause.message)
  | .panicked => .error (.startup "Interpreter thread exited during startup")

/-- The time, in milliseconds. -/
def now (h : Host σ) : Nat := h.services.now

/-- Whether the interpreter has not ended. -/
def isRunning (h : Host σ) : Bool :=
  match h.interpreter with
  | .stopped | .crashed _ => false
  | _ => true

/-- Whether no job can ever come any more. -/
def isDisconnected (h : Host σ) : Bool := !h.held && h.bridges = 0 && h.channel.jobs.isEmpty

/-- Submit source: the number of the call. -/
def submit (h : Host σ) (onInterpreter : Bool) (source chunk : String) (timeoutMillis : Nat) :
    Except HostFault Nat × Host σ :=
  let (id, bridge) := h.bridge.submit onInterpreter h.now source chunk timeoutMillis
  (id, { h with bridge })

/-- Let the job of a call enter the channel. -/
def enter (h : Host σ) (call : Nat) : Host σ :=
  let (bridge, channel) := h.bridge.enter h.channel call
  { h with bridge, channel }

/-- The interpreter ends: nobody takes jobs any more. -/
def leave (h : Host σ) (how : Interpreter σ) : Host σ :=
  { h with channel := h.channel.leave, interpreter := how }

/-- The interpreter stops as it should: the guest drops its closures first. -/
def halt (g : Guest σ) (h : Host σ) : Host σ :=
  { h with guest := g.releaseAll h.guest }.leave .stopped

/-- The interpreter takes a job, if it is free to and there is one. -/
def takeJob? (g : Guest σ) (h : Host σ) : Option (Host σ) :=
  match h.interpreter, h.channel.take with
  | .selecting, some (.execute request, channel) =>
      some { h with channel, interpreter := .executing request h.now (g.execute request) }
  | .selecting, some (.releaseClosures, channel) =>
      some { h with channel, guest := g.releaseAll h.guest, interpreter := .draining }
  | .selecting, some (.stop, channel) => some ({ h with channel }.halt g)
  | _, _ => none

/-- The interpreter takes the wake-up token, if it is free to and there is one. -/
def takeToken? (h : Host σ) : Option (Host σ) :=
  match h.interpreter, h.services.queue.takeToken with
  | .selecting, (true, queue) =>
      some { h with services := { h.services with queue }, interpreter := .draining }
  | _, _ => none

/-- The interpreter stops because no job can ever come any more. -/
def disconnect? (g : Guest σ) (h : Host σ) : Option (Host σ) :=
  match h.interpreter with
  | .selecting => if h.isDisconnected then some (h.halt g) else none
  | _ => none

/-- Count a submission. -/
def count (h : Host σ) (c : Submission.Counter) : Host σ :=
  { h with bridge := { h.bridge with stats := h.bridge.stats.count c } }

/-- The interpreter does its next step; nothing while it waits. -/
def work? (g : Guest σ) (h : Host σ) : Option (Host σ) :=
  match h.interpreter with
  | .selecting | .stopped | .crashed _ => none
  | .executing request since code =>
      match code.advance (h.services, h.guest) with
      | (none, _) => none
      | (some (.inr code), services, guest) =>
          some { h with services, guest, interpreter := .executing request since code }
      | (some (.inl ending), _) =>
          let result := Result.ofFinish ending ((h.now - since) * 1000)
          some { h with interpreter := .executed request result }
  | .executed request result =>
      some { h.count .completed with interpreter := .completed request result }
  | .completed request result =>
      let counted := if result.success then h else h.count .failed
      some { counted with interpreter := .counted request result }
  | .counted request result =>
      some { h with bridge := h.bridge.answer request.id result, interpreter := .draining }
  | .draining =>
      let (batch, queue) := h.services.queue.drain
      some { h with
        services := { h.services with queue }
        interpreter := .passing batch .zero }
  | .passing [] _ => some { h with interpreter := .selecting }
  | .passing (c :: rest) counts => some { h with interpreter := .invoking (g.invoke c) rest counts }
  | .invoking code rest counts =>
      match code.advance (h.services, h.guest) with
      | (none, _) => none
      | (some (.inr code), services, guest) =>
          some { h with services, guest, interpreter := .invoking code rest counts }
      | (some (.inl (.panicked message)), _) => some (h.leave (.crashed message))
      | (some (.inl ending), _) =>
          some { h with interpreter := .passing rest (counts.add ending) }

/-- Tear everything down, and have the guest drop its closures unless the channel is full. -/
def tearDown (h : Host σ) : Teardown × Host σ :=
  let (report, services) := h.services.tearDown
  let channel := match h.channel.send .releaseClosures with
    | .ok channel => channel
    | .error _ => h.channel
  (report, { h with services, channel })

/-- Ask the interpreter to stop, if there is room for the job. -/
def stop (h : Host σ) : Host σ :=
  match h.channel.send .stop with
  | .ok channel => { h with channel }
  | .error _ => h

/-- Conclude the shutdown of a host whose interpreter has ended: nothing outlives it. -/
def conclude (h : Host σ) : Host σ :=
  if h.isRunning then h else { h with services := h.services.tearDown.2, held := false }

/-- Drop the host: the interpreter is asked to stop, and timers and operations end. -/
def drop (h : Host σ) : Host σ :=
  if h.held then
    let h := h.stop
    let (_, timers, queue) := h.services.timers.cancelAll h.services.queue
    let (_, network) := h.services.network.abortAll
    { h with services := ⟨timers, queue, network⟩, held := false }
  else h

/-- What an event does.  An event that cannot happen does nothing. -/
def react (g : Guest σ) (h : Host σ) : Event → Host σ
  | .submit onInterpreter source chunk timeout => (h.submit onInterpreter source chunk timeout).2
  | .enter call => h.enter call
  | .giveUp call => { h with bridge := h.bridge.giveUp call }
  | .collect call => { h with bridge := h.bridge.collect call }
  | .takeJob => (h.takeJob? g).getD h
  | .takeToken => h.takeToken?.getD h
  | .disconnect => (h.disconnect? g).getD h
  | .work => (h.work? g).getD h
  | .elapse millis =>
      { h with services.timers.now := h.services.timers.now + millis }
  | .wakeTimer id => { h with services := h.services.wakeTimer id }
  | .cancelTimer id => { h with services := (h.services.cancelTimer id).2 }
  | .begin op => { h with services.network := h.services.network.begin op }
  | .reply op r => { h with services.network := h.services.network.reply op r }
  | .giveUpOperation op => { h with services.network := h.services.network.giveUp op }
  | .deliver op => { h with services := h.services.deliver op }
  | .retire op => { h with services.network := h.services.network.retire op }
  | .offer c => { h with services.queue := (h.services.queue.offer c).2 }
  | .signal => { h with services.queue := h.services.queue.signal }
  | .discard timer => { h with services.queue := (h.services.queue.discard timer).2 }
  | .tearDown => h.tearDown.2
  | .stop => h.stop
  | .conclude => h.conclude
  | .drop => h.drop
  | .cloneBridge => { h with bridges := h.bridges + 1 }
  | .dropBridge => { h with bridges := h.bridges - 1 }

/-- A run: one event after the other. -/
def run (g : Guest σ) (h : Host σ) (events : List Event) : Host σ := events.foldl (react g) h

end Host
end ScriptHost
