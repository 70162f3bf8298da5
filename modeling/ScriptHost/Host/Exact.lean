import ScriptHost.Host.Basic
import ScriptHost.Host.Scripts
import ScriptHost.Quiescence.Watchdog
import ScriptHost.Service.Exact
import ScriptHost.Service.Tally

/-!
# A host on an exact clock

Here the events of a host come in a fixed order.  At each time everything happens that can: network
operations go as far as they go, timers that are due fire, jobs enter the channel and the interpreter
works until it has nothing more to do; then the callers whose time is over give up.  Only then does
the clock go on, to the next time at which something is due.  Guest code takes no time.

Guest code may keep a host busy at one time without end, so every function here has a bound on the
number of its steps.
-/

namespace ScriptHost

open Network (Sockets)
open Quiescence (Verdict Watchdog)
open Submission (Call Result)

/-- A host with the sockets of its machine. -/
structure ExactHost (σ : Type) where
  host : Host σ
  sockets : Sockets
  settings : HostSettings

namespace ExactHost

variable {σ : Type}

/-- The services of a host with the sockets of its machine. -/
def services (x : ExactHost σ) : ExactServices :=
  ⟨x.host.services, x.sockets, x.settings.network⟩

/-- Let network operations go as far as they go, and fire the timers that are due. -/
def settleServices (x : ExactHost σ) : ExactHost σ :=
  let s := x.services.settle
  { x with host.services := s.services, sockets := s.sockets }

/-- Whether a call can make a step by itself: its job can enter, or never will. -/
def canEnter (h : Host σ) (call : Call) : Bool :=
  match call.stage with
  | .entering => !h.channel.attended || h.channel.jobs.length < h.channel.capacity
  | _ => false

/-- The next step of a host at one time, without its services. -/
def next? (g : Guest σ) (h : Host σ) : Option (Host σ) :=
  match h.bridge.calls.entries.find? fun e => canEnter h e.2 with
  | some (id, _) => some (h.enter id)
  | none =>
      (h.work? g).orElse fun _ => (h.takeJob? g).orElse fun _ =>
        h.takeToken?.orElse fun _ => h.disconnect? g

/-- Make at most so many steps. -/
def workOff (g : Guest σ) : Nat → Host σ → Host σ
  | 0, h => h
  | bound + 1, h =>
      match next? g h with
      | some h => workOff g bound h
      | none => h

/-- The callers whose time is over give up. -/
def giveUpDue (h : Host σ) : Host σ :=
  h.bridge.calls.entries.foldl
    (fun h (id, call) =>
      if call.deadline?.any (· ≤ h.now) then { h with bridge := h.bridge.giveUp id } else h)
    h

/-- Let everything happen that can happen at this time, in at most so many rounds. -/
def settle (g : Guest σ) (bound : Nat) : Nat → ExactHost σ → ExactHost σ
  | 0, x => { x with host := giveUpDue x.host }
  | rounds + 1, x =>
      let x := x.settleServices
      match next? g x.host with
      | some host => settle g bound rounds { x with host := workOff g bound host }
      | none => { x with host := giveUpDue x.host }

/-- Whether a call still waits. -/
def isPending (call : Call) : Bool :=
  match call.stage with
  | .entering | .awaiting => true
  | _ => false

/-- The next time at which something is due. -/
def nextTime (x : ExactHost σ) : Option Nat :=
  let timers := x.host.services.timers.live.values.map (·.due)
  let calls := (x.host.bridge.calls.values.filter isPending).filterMap (·.deadline?)
  ((timers ++ x.sockets.deadlines.values ++ calls).filter (x.host.now < ·)).min?

/-- Set the clock to a time that is not in the past. -/
def setClock (x : ExactHost σ) (time : Nat) : ExactHost σ :=
  { x with host.services.timers.now := max x.host.now time }

/-- How many steps are made at one time, how many rounds of them, and how many times of the clock
are passed, before a run is broken off. -/
def patience : Nat := 100000000

/-- Let everything happen that can happen at this time. -/
def settled (g : Guest σ) (x : ExactHost σ) : ExactHost σ := x.settle g patience patience

/-- How time passes for a host.  Effects of a monad `m` may go with it. -/
structure Clock (m : Type → Type) (σ : Type) where
  guest : Guest σ
  /-- Wait until a time has come. -/
  hold : Nat → m Unit
  /-- Look at a host when everything has happened that can happen at a time. -/
  watch : ExactHost σ → m (ExactHost σ)

/-- The clock on which time passes at once while nobody looks. -/
def Clock.atOnce (g : Guest σ) : Clock Id σ := ⟨g, fun _ => pure (), pure⟩

variable {m : Type → Type} [Monad m]

/-- Let time pass until a condition holds, but not beyond a limit.  The clock stops where the
condition came to hold, at the limit, or where nothing will happen any more. -/
def runUntil (c : Clock m σ) (done : ExactHost σ → Bool) (limit : Nat) :
    Nat → ExactHost σ → m (ExactHost σ)
  | 0, x => pure x
  | bound + 1, x => do
      let x ← c.watch (x.settled c.guest)
      if done x then pure x
      else
        match x.nextTime with
        | some time =>
            if time ≤ limit then
              c.hold time
              runUntil c done limit bound (x.setClock time)
            else
              c.hold limit
              c.watch ((x.setClock limit).settled c.guest)
        | none => pure x

/-- Let time pass until a condition holds, however long that takes. -/
def pass (c : Clock m σ) (done : ExactHost σ → Bool) (x : ExactHost σ) : m (ExactHost σ) :=
  x.runUntil c done endlessMillis patience

/-- Let time pass up to a point. -/
def advanceTo (c : Clock m σ) (time : Nat) (x : ExactHost σ) : m (ExactHost σ) := do
  let x ← x.runUntil c (fun _ => false) time patience
  c.hold time
  pure (x.setClock time)

/-- Whether a call has an outcome. -/
def hasOutcome (call : Nat) (x : ExactHost σ) : Bool :=
  match x.host.bridge.stage? call with
  | some (.answered _) | some (.ended _) => true
  | _ => false

/-- Collect the outcome of a call. -/
def collect (call : Nat) (x : ExactHost σ) : Option (Except HostFault Result) × ExactHost σ :=
  let x := { x with host.bridge := x.host.bridge.collect call }
  match x.host.bridge.stage? call with
  | some (.ended how) => (some how, x)
  | _ => (none, x)

/-- Wait for the outcome of a call.  A call that never gets one counts as one to a host that has shut
down. -/
def await (c : Clock m σ) (call : Nat) (x : ExactHost σ) :
    m (Except HostFault Result × ExactHost σ) := do
  let x ← x.pass c (hasOutcome call)
  let (outcome, x) := x.collect call
  pure (outcome.getD (.error .shutDown), x)

/-- Let happen what can happen at one time, in at most so many rounds, up to the end of the round in
which a condition has come to hold. -/
def settleTo (g : Guest σ) (done : ExactHost σ → Bool) (bound : Nat) :
    Nat → ExactHost σ → ExactHost σ
  | 0, x => { x with host := giveUpDue x.host }
  | rounds + 1, x =>
      let x := x.settleServices
      match next? g x.host with
      | some host =>
          let x := { x with host := workOff g bound host }
          if done x then x else settleTo g done bound rounds x
      | none => { x with host := giveUpDue x.host }

/-- Submit source and wait for what comes of it. -/
def submit (c : Clock m σ) : Scripts.Submit m (ExactHost σ) := fun source chunk timeoutMillis x =>
  match x.host.submit false source chunk timeoutMillis with
  | (.error fault, host) => pure (.error fault, { x with host })
  | (.ok call, host) => await c call { x with host }

/-- Submit source from a thread that does nothing but wait.  If the outcome comes without delay, the
thread goes on before the operations that the source has started run for the first time. -/
def submitBlocking (c : Clock m σ) : Scripts.Submit m (ExactHost σ) :=
  fun source chunk timeoutMillis x =>
    match x.host.submit false source chunk timeoutMillis with
    | (.error fault, host) => pure (.error fault, { x with host })
    | (.ok call, host) => do
        let x := { x with host }.settleTo c.guest (hasOutcome call) patience patience
        if hasOutcome call x then
          let x ← c.watch x
          let (outcome, x) := x.collect call
          pure (outcome.getD (.error .shutDown), x)
        else await c call x

/-- Poll the watchdog, and go on polling until one poll does not answer that the run goes on, or none
is left: what the last poll comes to. -/
def pollFrom (c : Clock m σ) (settings : WatchdogSettings) :
    Nat → Nat → Watchdog × ExactHost σ → m (Verdict × (Watchdog × ExactHost σ))
  | 0, time, (watchdog, x) => do
      let x ← x.advanceTo c time
      let (verdict, watchdog) :=
        watchdog.poll settings.stabilityThreshold (.ofServices x.host.services)
      pure (verdict, watchdog, x)
  | polls + 1, time, (watchdog, x) => do
      let x ← x.advanceTo c time
      match watchdog.poll settings.stabilityThreshold (.ofServices x.host.services) with
      | (.goesOn, watchdog) =>
          pollFrom c settings polls (time + settings.pollInterval) (watchdog, x)
      | (verdict, watchdog) => pure (verdict, watchdog, x)

/-- Wait for the end of the run, for as long as the settings allow: what the wait returns, unless it
panics. -/
def wait (c : Clock m σ) (world : Watchdog × ExactHost σ) :
    m (Option (Except HostFault Unit) × (Watchdog × ExactHost σ)) := do
  let (watchdog, x) := world
  let settings := x.settings.watchdog
  let start := x.host.now
  let polls := settings.shutdownTimeoutMillis / settings.pollInterval
  match ← pollFrom c settings polls start (watchdog, x) with
  | (.ended, world) => pure (some (.ok ()), world)
  | (.panicked, world) => pure (none, world)
  | (.goesOn, watchdog, x) =>
      let x ← x.advanceTo c (start + settings.shutdownTimeoutMillis)
      pure (some (.error (.shutdownTimeout (settings.shutdownTimeoutMillis * 1000))), watchdog, x)

/-- Stop the interpreter once it has done the jobs before, and conclude. -/
def shutdown (c : Clock m σ) (x : ExactHost σ) : m (ExactHost σ) := do
  let roomy (x : ExactHost σ) : Bool :=
    !x.host.isRunning || x.host.channel.jobs.length < x.host.channel.capacity
  let x ← x.pass c roomy
  let x ← { x with host := x.host.stop }.pass c (!·.host.isRunning)
  pure { x with host := x.host.conclude }

end ExactHost
end ScriptHost
