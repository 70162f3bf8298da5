import ScriptHost.Quiescence.Tally

/-!
# The termination watchdog

A run of a script is over when nothing is outstanding and stays so.  The watchdog follows the phases
of the run and is polled with tallies: in the phase of tracking, outside daemon mode, it answers
"over" once the tally is idle and has been the same for as many polls as the threshold says.  A tally
that cannot be added up makes it panic there, after it has been compared.  Each phase transition and
each setting of the mode starts the comparison anew, and so does a poll that cannot end the run.

The interactive phase is final: no transition leaves it.
-/

namespace ScriptHost.Quiescence

/-- Where the host is in its run of a script. -/
inductive Phase where
  | init
  | fragments
  | main
  | tracking
  | interactive
  deriving DecidableEq, Inhabited

/-- The name of a phase. -/
def Phase.name : Phase → String
  | init => "init"
  | fragments => "fragments"
  | main => "main"
  | tracking => "tracking"
  | interactive => "interactive"

/-- The state of the watchdog. -/
structure Watchdog where
  phase : Phase
  daemon : Bool
  mainRunning : Bool
  lastTally : Option Tally
  /-- How many polls in a row have seen the last tally, up to `maxPolls`. -/
  stablePolls : Nat
  deriving DecidableEq, Inhabited

/-- A step in the life of a run. -/
inductive Transition where
  | startFragments
  | completeFragments (mainPending : Bool)
  | startMain
  | completeMain
  | startInteractive
  deriving DecidableEq

/-- What a poll comes to. -/
inductive Verdict where
  /-- The answer "over". -/
  | ended
  /-- The answer that it is not. -/
  | goesOn
  /-- No answer. -/
  | panicked
  deriving DecidableEq

/-- What a poll comes to that may end the run: by whether its tally is idle, if that can be said, and
whether enough polls have seen it. -/
def Verdict.of (idle? : Option Bool) (enough : Bool) : Verdict :=
  match idle? with
  | some idle => if idle && enough then ended else goesOn
  | none => panicked

/-- The greatest count of polls; a longer series is not told from it. -/
def maxPolls : Nat := 4294967295

namespace Watchdog

/-- The watchdog before the run. -/
def start : Watchdog := ⟨.init, false, false, none, 0⟩

/-- Start the comparison of tallies anew. -/
def reset (w : Watchdog) : Watchdog := { w with lastTally := none, stablePolls := 0 }

/-- Set or leave daemon mode. -/
def setDaemon (w : Watchdog) (daemon : Bool) : Watchdog := { w.reset with daemon }

/-- The phase that a transition leads to.  Fragments lead on to the main script while one is pending
or running. -/
def target (w : Watchdog) : Transition → Phase
  | .startFragments => .fragments
  | .completeFragments mainPending => if mainPending || w.mainRunning then .main else .tracking
  | .startMain => .main
  | .completeMain => .tracking
  | .startInteractive => .interactive

/-- Whether the main script counts as running after a transition. -/
def mainAfter (w : Watchdog) : Transition → Bool
  | .startMain => true
  | .completeMain => false
  | _ => w.mainRunning

/-- Take a transition, unless the phase is interactive. -/
def advance (w : Watchdog) (t : Transition) : Watchdog :=
  if w.phase = .interactive then w
  else { w.reset with phase := w.target t, mainRunning := w.mainAfter t }

/-- Whether a poll may end the run. -/
def isTracking (w : Watchdog) : Bool := !w.daemon && w.phase = .tracking

/-- Poll with a tally, by a test for idle ones.  The tally is looked at only if the poll may end the
run. -/
def pollBy (idle? : Tally → Option Bool) (threshold : Nat) (w : Watchdog) (tally : Tally) :
    Verdict × Watchdog :=
  if w.isTracking then
    let stable := if w.lastTally = some tally then min (w.stablePolls + 1) maxPolls else 1
    (.of (idle? tally) (threshold ≤ stable),
      { w with lastTally := some tally, stablePolls := stable })
  else (.goesOn, w.reset)

/-- Poll with a tally. -/
def poll (threshold : Nat) (w : Watchdog) (tally : Tally) : Verdict × Watchdog :=
  w.pollBy Tally.isIdle? threshold tally

end Watchdog
end ScriptHost.Quiescence
