import ScriptHost.Fault.Host
import ScriptHost.Quiescence.Watchdog

/-!
# Waiting for the end of a run

A wait polls the watchdog at once and then at equal intervals until it answers "over" or the time is
up; a poll due at the very end is still made.  If a poll panics, so does the wait.  The world changes
while the wait goes on: each change has a time, counted from the start of the wait.
-/

namespace ScriptHost.Quiescence

/-- A watchdog with the tally that a poll would see now. -/
structure Watched where
  watchdog : Watchdog
  tally : Tally
  deriving DecidableEq, Inhabited

/-- A change of the watched world. -/
inductive Change where
  | transition (t : Transition)
  | setDaemon (daemon : Bool)
  | setTally (tally : Tally)
  deriving DecidableEq

namespace Watched

/-- Nothing outstanding, before the run. -/
def start : Watched := ⟨.start, .zero⟩

/-- Apply a change. -/
def apply (s : Watched) : Change → Watched
  | .transition t => { s with watchdog := s.watchdog.advance t }
  | .setDaemon daemon => { s with watchdog := s.watchdog.setDaemon daemon }
  | .setTally tally => { s with tally }

/-- Poll with the tally as it is. -/
def poll (threshold : Nat) (s : Watched) : Verdict × Watched :=
  let (verdict, watchdog) := s.watchdog.poll threshold s.tally
  (verdict, { s with watchdog })

end Watched

/-- A change with its time, in milliseconds from the start of the wait. -/
structure Timed where
  time : Nat
  change : Change
  deriving DecidableEq

/-- Apply the leading changes whose time satisfies a test: the rest, and the world afterwards. -/
def applyWhile (p : Nat → Bool) (s : Watched) : List Timed → List Timed × Watched
  | [] => ([], s)
  | t :: rest => if p t.time then applyWhile p (s.apply t.change) rest else (t :: rest, s)

/-- How a wait ended. -/
inductive WaitEnd where
  | terminated (elapsed : Nat)
  | timedOut (elapsed : Nat)
  | panicked (elapsed : Nat)
  deriving DecidableEq

/-- Poll at a time, after the changes that have been due by then: what the poll comes to, the changes
still to come, and the world afterwards. -/
def pollAt (threshold time : Nat) (changes : List Timed) (s : Watched) :
    Verdict × List Timed × Watched :=
  let (changes, s) := applyWhile (· ≤ time) s changes
  let (verdict, s) := s.poll threshold
  (verdict, changes, s)

/-- The rest of a wait from a poll on, when so many polls are still possible after it. -/
def waitFrom (threshold interval timeout : Nat) :
    Nat → Nat → List Timed → Watched → WaitEnd × Watched
  | polls, time, changes, s =>
      match pollAt threshold time changes s, polls with
      | (.ended, _, s), _ => (.terminated time, s)
      | (.panicked, _, s), _ => (.panicked time, s)
      | (.goesOn, changes, s), 0 => (.timedOut timeout, (applyWhile (· < timeout) s changes).2)
      | (.goesOn, changes, s), polls + 1 =>
          waitFrom threshold interval timeout polls (time + interval) changes s

/-- Wait for the end of the run, for at most `timeout` milliseconds.  The interval between polls is
at least one millisecond. -/
def wait (threshold interval timeout : Nat) (changes : List Timed) (s : Watched) :
    WaitEnd × Watched :=
  waitFrom threshold (max 1 interval) timeout (timeout / max 1 interval) 0 changes s

/-- How long a wait took. -/
def WaitEnd.elapsed : WaitEnd → Nat
  | terminated elapsed | timedOut elapsed | panicked elapsed => elapsed

/-- What a wait returns, unless it panics. -/
def WaitEnd.result? : WaitEnd → Option (Except HostFault Unit)
  | terminated _ => some (.ok ())
  | timedOut elapsed => some (.error (.shutdownTimeout (elapsed * 1000)))
  | panicked _ => none

end ScriptHost.Quiescence
