import ScriptHost.Session.CommandLine
import ScriptHost.Text.Blank

/-!
# The prompt

An interactive session reads lines.  A line is a command if it starts with a point, and source that
is submitted at once otherwise.  In a block, which `.multiline` opens and `.end` closes, lines are
kept and submitted together; a few commands still work there, and every other line, also one that
starts with a point, belongs to the block.

White space at the end of a line is dropped before the line is looked at.
-/

namespace ScriptHost.Session

/-- Where the prompt stands: outside a block, or inside one with its text so far. -/
inductive Prompt where
  | open
  | block (text : String)
  deriving DecidableEq, Inhabited

/-- What a line makes the session do. -/
inductive Reaction where
  | nothing
  | leave
  | help
  | tally
  | blockOpened
  | blockCancelled
  | unknownCommand (line : String)
  | submit (source : String)
  deriving DecidableEq, Inhabited

namespace Prompt

/-- What is shown in front of a line. -/
def mark : Prompt → String
  | .open => "hub> "
  | block _ => "...> "

/-- Whether a line is a command to leave. -/
def isLeave (line : String) : Bool := line = ".exit" || line = ".quit" || line = ".q"

/-- Whether a line is a command for help. -/
def isHelp (line : String) : Bool := line = ".help" || line = ".h"

/-- Read a line without white space at its end, outside a block. -/
def readOpen (line : String) : Reaction × Prompt :=
  if line.isEmpty then (.nothing, .open)
  else if isLeave line then (.leave, .open)
  else if isHelp line then (.help, .open)
  else if line = ".tally" || line = ".t" then (.tally, .open)
  else if line = ".multiline" || line = ".m" then (.blockOpened, .block "")
  else if line.startsWith "." then (.unknownCommand line, .open)
  else (.submit line, .open)

/-- Read a line without white space at its end, inside a block. -/
def readBlock (text line : String) : Reaction × Prompt :=
  if isLeave line then (.leave, .block text)
  else if isHelp line then (.help, .block text)
  else if line = ".end" then (.submit text, .open)
  else if line = ".cancel" then (.blockCancelled, .open)
  else (.nothing, .block (text ++ line ++ "\n"))

/-- Read a line. -/
def read (p : Prompt) (line : String) : Reaction × Prompt :=
  match p with
  | .open => readOpen (Text.trimEnd line)
  | .block text => readBlock text (Text.trimEnd line)

/-- Read lines until one makes the session end. -/
def readAll (p : Prompt) : List String → List Reaction
  | [] => []
  | line :: rest =>
      match p.read line with
      | (.leave, _) => [.leave]
      | (reaction, p) => reaction :: readAll p rest

/-- The sources that lines submit, in order. -/
def submitted (p : Prompt) (lines : List String) : List String :=
  (p.readAll lines).filterMap fun reaction =>
    match reaction with
    | .submit source => some source
    | _ => none

end Prompt

/-- The program, and what its guests are. -/
def title : String := versionLine ++ " - Lua runtime"

/-- What is shown at the start of a session. -/
def greeting : List String := [title, "Type .help for help, .exit to exit", ""]

/-- What is shown at the end of a session. -/
def farewell : List String := ["", "Goodbye!"]

/-- What is shown for help. -/
def helpLines : List String :=
  ["REPL Commands:",
    "  .help, .h      Show this help message",
    "  .exit, .q      Exit the REPL",
    "  .tally, .t     Show outstanding timers, sockets and callbacks",
    "  .multiline, .m Enter multiline mode",
    "  .end           Execute multiline input",
    "  .cancel        Cancel multiline input",
    "",
    "Timers and network callbacks keep running between lines."]

/-- The lines that are shown for a reaction, as far as they do not depend on the host. -/
def Reaction.lines : Reaction → List String
  | help => helpLines
  | blockOpened => ["Entering multiline mode. Type .end to execute, .cancel to abort."]
  | blockCancelled => ["Multiline input cancelled."]
  | unknownCommand line =>
      ["Unknown command: " ++ line ++ ". Type .help for available commands."]
  | _ => []

end ScriptHost.Session
