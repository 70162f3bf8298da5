import ScriptHost.Guest.Code
import ScriptHost.Json.Document
import ScriptHost.Ready.Closures
import ScriptHost.Settings.Basic

/-!
# The command guest

A guest for trying out a host.  Source is one command, a word with an argument after a blank.  The
closures are mere names; calling one writes its name into a log, and the first letter of the name
says what else it does.
-/

namespace ScriptHost.Guest.Command

open Ready (Callback Closures Invocation Target)

/-- What the command guest keeps. -/
structure State where
  names : Closures String
  /-- The log, the last entry first. -/
  log : List String
  /-- How often a blocked command may still be let go on. -/
  releases : Nat
  /-- Whether a command is blocked. -/
  blocked : Bool

/-- Nothing registered and nothing logged. -/
def State.start : State := ⟨.empty, [], 0, false⟩

/-- The world of the command guest. -/
abbrev World := Services × State

/-- Write into the log. -/
def State.note (s : State) (entry : String) : State := { s with log := entry :: s.log }

/-- A command with its argument. -/
def split (source : String) : String × Option String :=
  let (word, rest) := source.toList.span (· ≠ ' ')
  (String.ofList word, match rest with
    | [] => none
    | _ :: argument => some (String.ofList argument))

/-- A whole number of the signed 64-bit range. -/
def signed? (s : String) : Option Int :=
  let digits := if s.startsWith "-" || s.startsWith "+" then s.drop 1 |>.toString else s
  if digits.isEmpty || !digits.all Char.isDigit then none
  else
    let magnitude : Int := (digits.foldl (fun n c => n * 10 + (c.toNat - '0'.toNat)) 0 : Nat)
    let n := if s.startsWith "-" then -magnitude else magnitude
    if minSigned ≤ n ∧ n ≤ maxSigned then some n else none

/-- An unsigned number; nothing counts as zero. -/
def number (argument : Option String) : Nat := ((argument.bind signed?).getD 0).toNat

/-- The kinds of timers, by the first letter of their names. -/
inductive TimerKind where
  | plain
  | interval
  | failing
  | panicking
  | chaining
  deriving DecidableEq

/-- The first letter of the name of a timer. -/
def TimerKind.letter : TimerKind → String
  | plain => "t"
  | interval => "i"
  | failing => "f"
  | panicking => "p"
  | chaining => "c"

/-- Create a timer and register its name. -/
def createTimer (kind : TimerKind) (delay : Int) (world : World) :
    Except HostFault Nat × World :=
  match world.1.createTimer delay (kind = .interval) with
  | (.error fault, services) => (.error fault, services, world.2)
  | (.ok id, services) =>
      let names := world.2.names.insertTimer id (kind.letter ++ toString id) (kind = .interval)
      (.ok id, services, { world.2 with names })

/-- Create a timer whose delay is written in the argument. -/
def timer (kind : TimerKind) (argument : Option String) : Code World Value :=
  match argument.bind signed? with
  | none => .raise "bad delay"
  | some delay => do
      match ← Code.act (createTimer kind delay) with
      | .error fault => .raise fault.message
      | .ok id => return .int id

/-- Register a name for a completion: its number. -/
def register (name : String) (world : World) : Nat × World :=
  let (id, names) := world.2.names.insertCompletion name
  (id, world.1, { world.2 with names })

/-- Register a name and start an operation that completes it. -/
def operation (name : String) (request : Network.Request) : Code World Value := do
  let id ← Code.act (register name)
  Code.change fun world => (world.1.startOperation request id, world.2)
  return .int id

/-- Cancel a timer and drop its name: whether the timer was live and whether it had a name. -/
def cancel (id : Nat) (world : World) : (Bool × Bool) × World :=
  let (live, services) := world.1.cancelTimer id
  let (name, names) := world.2.names.release (.timer id)
  ((live, name.isSome), services, { world.2 with names })

/-- Wait to be let go on. -/
def block : Code World Value := do
  Code.change fun world => (world.1, { world.2 with blocked := true })
  Code.await (fun world => 0 < world.2.releases) (Code.change fun world =>
    (world.1,
      { world.2.note "released" with releases := world.2.releases - 1, blocked := false }))
  return .string "released"

/-- Run a command. -/
def execute (request : Request) : Code World Value :=
  let (word, argument) := split request.source
  let text := argument.getD ""
  match word with
  | "noop" => return .null
  | "echo" =>
      match Json.Document.parse? text with
      | some v => return v
      | none => .raise "bad json"
  | "fail" => .raise text
  | "panic" => .finish (.panicked text)
  | "panicstr" => .finish (.panicked "static boom")
  | "panicany" => .finish (.panicked "unknown error")
  | "block" =>
      match argument with
      | none => block
      | some _ => do
          let _ ← timer .plain argument
          block
  | "timer" => timer .plain argument
  | "interval" => timer .interval argument
  | "failtimer" => timer .failing argument
  | "panictimer" => timer .panicking argument
  | "chaintimer" => timer .chaining argument
  | "cancel" => do
      let (live, named) ← Code.act (cancel (number argument))
      return .array [.bool live, .bool named]
  | "register" => do return .int (← Code.act (register text))
  | "complete" => do
      Code.change fun world =>
        ((world.1.enqueue (.completion (number argument) .noData)).2, world.2)
      return .bool true
  | "listen" => operation "listen" (.listen "127.0.0.1" 0)
  | "accept" => operation "accept" (.accept (number argument))
  | "log" => do
      let entries ← Code.act fun world => (world.2.log, world.1, { world.2 with log := [] })
      return .array (entries.reverse.map .string)
  | "closures" => do return .int (← Code.look fun world => world.2.names.size)
  | "id" => return .int request.id
  | "chunk" => return .string request.chunk
  | "timeout" => return .string (toString request.timeoutMillis)
  | "reenter" =>
      return .object [("error", .string "Reentrant"), ("message", .string HostFault.reentrant.message)]
  | other => .raise ("unknown command " ++ other)

/-- How a target without a name is logged. -/
def skipNote : Target → String
  | .timer id => "skip \x7b\"timer\":" ++ toString id ++ "\x7d"
  | .completion id => "skip \x7b\"completion\":" ++ toString id ++ "\x7d"

/-- Look the name of a callback up, and log it. -/
def resolve (c : Callback) (world : World) : Option String × World :=
  let (found, names) := world.2.names.resolve c.target
  let state := { world.2 with names }
  match found with
  | none => (none, world.1, state.note (skipNote c.target))
  | some (.retained name) | some (.removed name) => (some name, world.1, state.note name)

/-- Call what a callback names. -/
def invoke (c : Callback) : Code World Invocation := do
  match ← Code.act (resolve c) with
  | none => return .skipped
  | some name =>
      match name.toList with
      | 'f' :: _ => .raise name
      | 'p' :: _ => .finish (.panicked name)
      | 'c' :: _ => do
          let _ ← Code.act (createTimer .plain 0)
          return .invoked
      | _ => return .invoked

/-- The guest. -/
def guest : Guest State where
  execute := execute
  invoke := invoke
  releaseAll state := { state with names := state.names.drain.2 }

end ScriptHost.Guest.Command
