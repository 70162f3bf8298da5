import ScriptHost.Session.Start
import ScriptHost.Session.Terminal

/-!
# The program

A session is run in real time at the terminal of the process.
-/

namespace ScriptHost.Session

/-- Write a line on the standard output. -/
def say (line : String) : IO Unit := do
  let output ← IO.getStdout
  output.putStrLn line
  output.flush

/-- Write what the guest has written since the last time. -/
def passOn (x : ExactHost LuaState) : IO (ExactHost LuaState) := do
  let (bytes, x) := takeOutput x
  unless bytes.isEmpty do
    let output ← IO.getStdout
    output.write bytes
    output.flush
  return x

/-- Sleep until a time on the clock of the process. -/
partial def sleepUntil (time : Nat) : IO Unit := do
  let now ← IO.monoMsNow
  if now < time then
    IO.sleep (min (time - now) 60000).toUInt32
    sleepUntil time

/-- The clock of a session.  The clock of the process showed `origin` when it showed zero. -/
def realTime (origin : Nat) : ExactHost.Clock IO LuaState :=
  ⟨guest, fun time => sleepUntil (origin + time), passOn⟩

/-- Let time pass until the process is interrupted, which ends it. -/
partial def awaitInterruption (origin : Nat) (x : ExactHost LuaState) : IO (ExactHost LuaState) := do
  let x ← x.pass (realTime origin) fun _ => false
  IO.sleep 60000
  awaitInterruption origin x

/-- The failure with a number of the system, which may come with its sign changed. -/
def numbered (number : UInt32) : String :=
  (IoFault.ofNumber (min number.toNat (0 - number).toNat)).message

/-- Why the system would not do something. -/
def reason : IO.Error → String
  | .noFileOrDirectory _ number _ | .permissionDenied _ number _ | .inappropriateType _ number _ =>
      numbered number
  | other => toString other

/-- The text of a file, or why there is none. -/
def load (path : String) : IO (Except String String) := do
  try
    match String.fromUTF8? (← IO.FS.readBinFile path) with
    | some text => return .ok text
    | none => return .error "stream did not contain valid UTF-8"
  catch e => return .error (reason e)

/-- The terminal of the process. -/
def terminal (origin : Nat) : Terminal IO LuaState where
  start := freshHost
  clock := realTime origin
  say := say
  complain line := do (← IO.getStderr).putStrLn line
  hasFile path := do ((← IO.currentDir) / path).pathExists
  load := load
  interruption := awaitInterruption origin

/-- Read and answer lines, until one says that the session ends or there are no more. -/
partial def converse (origin : Nat) (prompt : Prompt) (x : ExactHost LuaState) :
    IO (ExactHost LuaState) := do
  let output ← IO.getStdout
  output.putStr prompt.mark
  output.flush
  let line ← (← IO.getStdin).getLine
  if line.isEmpty then return x
  let x ← x.advanceTo (realTime origin) ((← IO.monoMsNow) - origin)
  match prompt.read line with
  | (.leave, _) => return x
  | (reaction, prompt) => converse origin prompt (← (terminal origin).react reaction x)

end ScriptHost.Session

/-- The program. -/
def main (arguments : List String) : IO UInt32 := do
  let origin ← IO.monoMsNow
  let directory := (← IO.currentDir).toString
  let code ← (ScriptHost.Session.terminal origin).session
    (ScriptHost.Session.converse origin .open) directory arguments
  return code.toUInt32
