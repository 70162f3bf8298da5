import ScriptHost.Session.Start
import ScriptHost.Session.Terminal

/-!
# Transcripts

A session can be run without a process around it: its files and its input are given, its time passes
at once, and what it writes is put down in a transcript.
-/

namespace ScriptHost.Session

/-- What a session finds around it. -/
structure Surroundings where
  /-- Files by their absolute paths. -/
  files : List (String × String)
  directory : String
  input : List String
  /-- How long after it has first written something the session is interrupted. -/
  interruptMillis : Nat

/-- What a session has written so far. -/
structure Transcript where
  output : ByteArray
  complaints : List String
  /-- When it first wrote something. -/
  firstOutput : Option Nat

/-- A session that puts down what it writes. -/
abbrev Recorded := StateM Transcript

namespace Surroundings

/-- The steps of a path from the root. -/
def steps (path : List String) : List String :=
  path.foldl
    (fun steps part =>
      if part = "" || part = "." then steps
      else if part = ".." then steps.dropLast
      else steps ++ [part])
    []

/-- The absolute path that a path stands for. -/
def absolute (s : Surroundings) (path : String) : String :=
  let path := if path.startsWith "/" then path else s.directory ++ "/" ++ path
  "/" ++ "/".intercalate (steps (path.splitOn "/"))

/-- Whether a path is that of a directory with files in it. -/
def isDirectory (s : Surroundings) (path : String) : Bool :=
  let path := s.absolute path
  let inside := if path = "/" then path else path ++ "/"
  path = s.absolute "" || s.files.any fun file => file.1.startsWith inside

/-- The text of a file, or why there is none. -/
def load (s : Surroundings) (path : String) : Except String String :=
  match s.files.find? (·.1 = s.absolute path) with
  | some (_, text) => .ok text
  | none => .error (IoFault.ofNumber (if s.isDirectory path then 21 else 2)).message

/-- Put down what the guest has written. -/
def watch (x : ExactHost LuaState) : Recorded (ExactHost LuaState) := do
  let (bytes, x) := takeOutput x
  unless bytes.isEmpty do
    modify fun w =>
      { w with output := w.output ++ bytes, firstOutput := w.firstOutput.orElse fun _ => x.host.now }
  pure x

/-- The clock of a session. -/
def clock : ExactHost.Clock Recorded LuaState := ⟨guest, fun _ => pure (), watch⟩

/-- Let time pass until something has been written, for at most so many stops of the clock. -/
def awaitOutput : Nat → ExactHost LuaState → Recorded (ExactHost LuaState)
  | 0, x => pure x
  | bound + 1, x => do
      if (← get).firstOutput.isSome then pure x
      else
        match x.nextTime with
        | none => pure x
        | some time => awaitOutput bound (← x.advanceTo clock time)

/-- Let time pass until the session is interrupted. -/
def interruption (s : Surroundings) (x : ExactHost LuaState) : Recorded (ExactHost LuaState) := do
  let x ← awaitOutput ExactHost.patience x
  let start := (← get).firstOutput.getD x.host.now
  x.advanceTo clock (max x.host.now (start + s.interruptMillis))

/-- The terminal of a session. -/
def terminal (s : Surroundings) : Terminal Recorded LuaState where
  start := freshHost
  clock := clock
  say line := modify fun w => { w with output := w.output ++ (line ++ "\n").toUTF8 }
  complain line := modify fun w => { w with complaints := w.complaints ++ [line] }
  hasFile path := pure ((s.load path).isOk || s.isDirectory path)
  load path := pure (s.load path)
  interruption := s.interruption

/-- Read and answer lines. -/
def converse (s : Surroundings) (p : Prompt) :
    List String → ExactHost LuaState → Recorded (ExactHost LuaState)
  | lines, x => do
      modify fun w => { w with output := w.output ++ p.mark.toUTF8 }
      match lines with
      | [] => pure x
      | line :: rest =>
          match p.read line with
          | (.leave, _) => pure x
          | (reaction, p) => s.converse p rest (← s.terminal.react reaction x)

/-- Run a session: its exit code, and the transcript. -/
def run (s : Surroundings) (arguments : List String) : Nat × Transcript :=
  (s.terminal.session (s.converse .open s.input) s.directory arguments).run ⟨.empty, [], none⟩

end Surroundings
end ScriptHost.Session
