import ScriptHost.Quiescence.Watchdog
import ScriptHost.Settings.Basic
import ScriptHost.Submission.Result

/-!
# Running scripts

A script is run by submitting its fragments, in order, and then its main part, and the watchdog is
told where the run has got to.  Fragments are all submitted whatever becomes of the guest code in
them; only a failure of the host ends their run at once.
-/

namespace ScriptHost.Scripts

open Quiescence (Watchdog)
open Submission (Result)

/-- How a submission of source, under a name and with a time limit in milliseconds, comes out in a
world of type `ω`.  It may have effects of a monad `m` besides. -/
abbrev Submit (m : Type → Type) (ω : Type) :=
  String → String → Nat → ω → m (Except HostFault Result × ω)

variable {m : Type → Type} [Monad m] {ω : Type}

/-- The name of the source of a fragment; the first one has number 1. -/
def fragmentName (number : Nat) : String := "=fragment " ++ toString number

/-- The name of the source of the main part. -/
def mainName (name : String) : String := "@" ++ name

/-- Submit fragments, the first of which has a given number, up to a failure of the host. -/
def submitFragments (submit : Submit m ω) (timeoutMillis : Nat) :
    Nat → List String → ω → m (Except HostFault (List Result) × ω)
  | _, [], world => pure (.ok [], world)
  | number, source :: rest, world => do
      match ← submit source (fragmentName number) timeoutMillis world with
      | (.error fault, world) => pure (.error fault, world)
      | (.ok result, world) =>
          let (results, world) ← submitFragments submit timeoutMillis (number + 1) rest world
          pure (results.map (result :: ·), world)

/-- Run the fragments of a script. -/
def runFragments (submit : Submit m ω) (settings : HostSettings) (fragments : List String)
    (mainPending : Bool) (world : Watchdog × ω) :
    m (Except HostFault (List Result) × (Watchdog × ω)) := do
  let watchdog := world.1.advance .startFragments
  match ← submitFragments submit settings.executionTimeoutMillis 1 fragments world.2 with
  | (.error fault, world) => pure (.error fault, watchdog, world)
  | (.ok results, world) =>
      pure (.ok results, watchdog.advance (.completeFragments mainPending), world)

/-- Run the main part of a script.  The watchdog is told of its end however that comes about. -/
def runMain (submit : Submit m ω) (settings : HostSettings) (source name : String)
    (world : Watchdog × ω) : m (Except HostFault Result × (Watchdog × ω)) := do
  let watchdog := world.1.advance .startMain
  let (result, world) ← submit source (mainName name) settings.mainTimeout world.2
  pure (result, watchdog.advance .completeMain, world)

end ScriptHost.Scripts
