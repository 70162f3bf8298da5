import ScriptHost.Host.Exact
import ScriptHost.Json.Written
import ScriptHost.Session.Prompt
import ScriptHost.Settings.File

/-!
# Sessions at a terminal

A session is given a terminal, by which it also sees files and lets time pass.  What it does is said
here for any monad, so that a session can be followed step by step as well as run.  There are three
kinds: a script that is run to its end, source that is evaluated, and a conversation, in which lines
are read and answered one by one.
-/

namespace ScriptHost.Session

open Quiescence (Tally Watchdog)
open Submission (Result)

/-- A terminal, and what else a session finds around it. -/
structure Terminal (m : Type → Type) (σ : Type) where
  /-- A host that has just started. -/
  start : HostSettings → ExactHost σ
  clock : ExactHost.Clock m σ
  /-- Write a line. -/
  say : String → m Unit
  /-- Write a line about something that has gone wrong. -/
  complain : String → m Unit
  /-- Whether there is a file. -/
  hasFile : String → m Bool
  /-- The text of a file, or why there is none. -/
  load : String → m (Except String String)
  /-- Let time pass until the session is interrupted. -/
  interruption : ExactHost σ → m (ExactHost σ)

/-- Why a session ends with a failure. -/
inductive Failure where
  | missingSettings (path : String)
  | unreadableSettings (why : String)
  | badSettings (path : String)
  | nothingToRun
  | unreadable (path why : String)
  | host (fault : HostFault)
  | scriptFailed
  /-- The session does not end, it breaks off. -/
  | panicked (message : String)
  deriving DecidableEq

/-- The text of a failure. -/
def Failure.message : Failure → String
  | missingSettings path => "Config file " ++ path ++ " not found"
  | unreadableSettings why => why
  | badSettings path => "Failed to parse " ++ path
  | nothingToRun => "Nothing to run: pass a script path or --eval"
  | unreadable path why => "Failed to read " ++ path ++ ": " ++ why
  | host fault => fault.message
  | scriptFailed => "Script raised an error"
  | panicked message => message

/-- The line about a session that has failed. -/
def Failure.line : Failure → String
  | panicked message => message
  | f => "Error: " ++ f.message

/-- The exit code of a session that has failed. -/
def Failure.code : Failure → Nat
  | panicked _ => 101
  | _ => 1

/-- The line about guest code that has failed. -/
def errorLine (message : String) : String := "error: " ++ message

namespace Terminal

variable {m : Type → Type} [Monad m] {σ : Type}

/-- Complain about a result if it is a failure: whether it is one. -/
def report (t : Terminal m σ) (r : Result) : m Bool := do
  match r.outcome with
  | .ok _ => pure false
  | .error message => t.complain (errorLine message); pure true

/-- Show a result: whether it is none of a failure. -/
def display (t : Terminal m σ) (r : Result) : m Bool := do
  match r.outcome with
  | .ok .null => pure true
  | .ok value => t.say (Json.indented value); pure true
  | .error message => t.complain (errorLine message); pure false

/-- Report results one by one: whether there is a failure among them. -/
def reportAll (t : Terminal m σ) : List Result → m Bool
  | [] => pure false
  | r :: rest => do
      let failed ← t.report r
      let others ← t.reportAll rest
      pure (failed || others)

/-- Run the fragments of a script, if there are any: whether one has failed. -/
def runFragments (t : Terminal m σ) (fragments : List String) (mainPending : Bool)
    (world : Watchdog × ExactHost σ) : m (Except Failure Bool × (Watchdog × ExactHost σ)) := do
  if fragments.isEmpty then pure (.ok false, world)
  else
    let submit := ExactHost.submit t.clock
    match ← Scripts.runFragments submit world.2.settings fragments mainPending world with
    | (.error fault, world) => pure (.error (.host fault), world)
    | (.ok results, world) => pure (.ok (← t.reportAll results), world)

/-- Run the main part of a script, if there is one: whether it has failed.  Its text, or why there
is none, is asked for when its turn has come. -/
def runMain (t : Terminal m σ) (entry : Option String) (world : Watchdog × ExactHost σ) :
    m (Except Failure Bool × (Watchdog × ExactHost σ)) := do
  match entry with
  | none => pure (.ok false, world)
  | some path =>
      match ← t.load path with
      | .error why => pure (.error (.unreadable path why), world)
      | .ok source =>
          let submit := ExactHost.submit t.clock
          match ← Scripts.runMain submit world.2.settings source path world with
          | (.error fault, world) => pure (.error (.host fault), world)
          | (.ok result, world) => pure (.ok (← t.report result), world)

/-- Wait for what a script has left outstanding, and tear down what does not end in time.  A daemon
waits until it is interrupted. -/
def finish (t : Terminal m σ) (world : Watchdog × ExactHost σ) :
    m (Except Failure (ExactHost σ)) := do
  let (ended?, x) ←
    if world.1.daemon then pure (some false, ← t.interruption world.2)
    else
      let (result?, _, x) ← ExactHost.wait t.clock world
      pure (result?.map (·.isOk), x)
  match ended? with
  | none => pure (.error (.panicked Quiescence.overflowMessage))
  | some ended =>
      let x := if ended then x else { x with host := x.host.tearDown.2 }
      pure (.ok (← ExactHost.shutdown t.clock x))

/-- Run a script: its fragments first, then its main part, then what they leave outstanding. -/
def runScript (t : Terminal m σ) (entry : Option String) (fragments : List String) (daemon : Bool)
    (x : ExactHost σ) : m (Except Failure Unit) := do
  if entry.isNone && fragments.isEmpty then pure (.error .nothingToRun)
  else
    let world := (Watchdog.start.setDaemon daemon, x)
    match ← t.runFragments fragments entry.isSome world with
    | (.error failure, _) => pure (.error failure)
    | (.ok fragmentFailed, world) =>
        match ← t.runMain entry world with
        | (.error failure, _) => pure (.error failure)
        | (.ok mainFailed, world) =>
            match ← t.finish world with
            | .error failure => pure (.error failure)
            | .ok _ => pure (if fragmentFailed || mainFailed then .error .scriptFailed else .ok ())

/-- Evaluate source under the usual time limit, and show what comes of it: whether that is none of a
failure. -/
def evaluate (t : Terminal m σ) (source : String) (x : ExactHost σ) :
    m (Except Failure Bool × ExactHost σ) := do
  let submit := ExactHost.submit t.clock
  match ← submit source Submission.Bridge.anonymous x.settings.executionTimeoutMillis x with
  | (.error fault, x) => pure (.error (.host fault), x)
  | (.ok result, x) => pure (.ok (← t.display result), x)

/-- Do what a line of a session asks for. -/
def react (t : Terminal m σ) (reaction : Reaction) (x : ExactHost σ) : m (ExactHost σ) := do
  reaction.lines.forM t.say
  match reaction with
  | .tally => t.say (Json.listed (Tally.ofServices x.host.services).value); pure x
  | .submit source =>
      match ← t.evaluate source x with
      | (.error failure, x) => t.complain (errorLine failure.message); pure x
      | (.ok _, x) => pure x
  | _ => pure x

/-- The first of several paths at which there is a file. -/
def firstFile? (t : Terminal m σ) : List String → m (Option String)
  | [] => pure none
  | path :: rest => do if ← t.hasFile path then pure (some path) else t.firstFile? rest

/-- Find and read the settings.  A file that is given must be there. -/
def loadSettings (t : Terminal m σ) (directory : String) (given : Option String) :
    m (Except Failure Settings.FileSettings) := do
  let path ← match given with
    | some path => pure (some path)
    | none => t.firstFile? (Settings.searchPaths directory)
  match path with
  | none => pure (.ok .standard)
  | some path =>
      if !(← t.hasFile path) then pure (.error (.missingSettings path))
      else
        match ← t.load path with
        | .error why => pure (.error (.unreadableSettings why))
        | .ok text =>
            pure ((Settings.ofFile text).mapError fun _ => .badSettings path)

/-- Serve a command: how that fails, or the exit code. -/
def serve (t : Terminal m σ) (converse : ExactHost σ → m (ExactHost σ)) (command : Command)
    (settings : Settings.FileSettings) : m (Except Failure Nat) := do
  match command with
  | .run entry fragments daemon timeout shutdownTimeout =>
      let x := t.start (settings.host.withLimits timeout shutdownTimeout)
      let ended ← t.runScript entry fragments (daemon || settings.daemon) x
      pure (ended.map fun _ => 0)
  | .evaluate (some source) =>
      match ← t.evaluate source (t.start settings.host) with
      | (.error failure, _) => pure (.error failure)
      | (.ok succeeded, x) =>
          let _ ← ExactHost.shutdown t.clock x
          pure (.ok (if succeeded then 0 else 1))
  | .evaluate none =>
      greeting.forM t.say
      let x ← converse (t.start settings.host)
      farewell.forM t.say
      let _ ← ExactHost.shutdown t.clock x
      pure (.ok 0)

/-- A whole session in a directory: its exit code. -/
def session (t : Terminal m σ) (converse : ExactHost σ → m (ExactHost σ)) (directory : String)
    (arguments : List String) : m Nat := do
  match CommandLine.read arguments with
  | .error .help => usageLines.forM t.say; pure 0
  | .error .version => t.say versionLine; pure 0
  | .error fault => t.complain (errorLine fault.message); pure 2
  | .ok line =>
      let ended ← match ← t.loadSettings directory line.config with
        | .error failure => pure (.error failure)
        | .ok settings => t.serve converse line.command settings
      match ended with
      | .ok code => pure code
      | .error failure => t.complain failure.line; pure failure.code

end Terminal
end ScriptHost.Session
