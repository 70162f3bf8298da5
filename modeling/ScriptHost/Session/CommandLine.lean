import ScriptHost.Data.Value

/-!
# The command line

Arguments are read from left to right, and the first one that is wrong decides.  Options may be
written with their value behind an equals sign or in the next argument; a short option also takes the
rest of its own argument.  `--config` is understood everywhere, anything else only where it belongs.
-/

namespace ScriptHost.Session

/-- What is asked for. -/
inductive Command where
  /-- Run fragments and a script, and wait for what they leave outstanding. -/
  | run (entry : Option String) (fragments : List String) (daemon : Bool)
      (timeoutMillis shutdownMillis : Option Nat)
  /-- Evaluate source, or start an interactive session. -/
  | evaluate (source : Option String)
  deriving DecidableEq, Inhabited

/-- A command line. -/
structure CommandLine where
  config : Option String
  command : Command
  deriving DecidableEq, Inhabited

/-- Why a command line is refused, or what it asks for instead of a command. -/
inductive UsageFault where
  | unexpected (argument : String)
  | unknownCommand (name : String)
  | missingValue (option : String)
  | badValue (value option why : String)
  | unwantedValue (value option : String)
  | repeated (option : String)
  | help
  | version
  deriving DecidableEq, Inhabited

/-- The text of a fault. -/
def UsageFault.message : UsageFault → String
  | unexpected argument => "unexpected argument '" ++ argument ++ "' found"
  | unknownCommand name => "unrecognized subcommand '" ++ name ++ "'"
  | missingValue option =>
      "a value is required for '" ++ option ++ "' but none was supplied"
  | badValue value option why => "invalid value '" ++ value ++ "' for '" ++ option ++ "': " ++ why
  | unwantedValue value option =>
      "unexpected value '" ++ value ++ "' for '" ++ option ++ "' found; no more were expected"
  | repeated option => "the argument '" ++ option ++ "' cannot be used multiple times"
  | help | version => ""

namespace CommandLine

/-- Where arguments belong to. -/
inductive Level where
  | top
  | run
  | evaluate
  deriving DecidableEq, Inhabited

/-- The options. -/
inductive Flag where
  | config
  | eval
  | daemon
  | timeout
  | shutdownTimeout
  | help
  | version
  deriving DecidableEq, Inhabited

/-- The option with a long name. -/
def Flag.ofLong? (level : Level) (name : String) : Option Flag :=
  match name, level with
  | "config", _ => some .config
  | "help", _ => some .help
  | "version", .top => some .version
  | "eval", .run | "eval", .evaluate => some .eval
  | "daemon", .run => some .daemon
  | "timeout", .run => some .timeout
  | "shutdown-timeout", .run => some .shutdownTimeout
  | _, _ => none

/-- The option with a short name. -/
def Flag.ofShort? (level : Level) (name : Char) : Option Flag :=
  match name, level with
  | 'h', _ => some .help
  | 'V', .top => some .version
  | 'e', .run | 'e', .evaluate => some .eval
  | _, _ => none

/-- Whether an option has a value. -/
def Flag.hasValue : Flag → Bool
  | .config | .eval | .timeout | .shutdownTimeout => true
  | _ => false

/-- An option as it is named in messages. -/
def Flag.usage (level : Level) : Flag → String
  | .config => "--config <CONFIG>"
  | .eval => if level = .run then "--eval <CODE>" else "--eval <EVAL>"
  | .daemon => "--daemon"
  | .timeout => "--timeout <TIMEOUT>"
  | .shutdownTimeout => "--shutdown-timeout <MS>"
  | .help => "--help"
  | .version => "--version"

/-- What has been read. -/
structure State where
  level : Level
  config : Option String
  /-- Whether the configuration has been named at this level. -/
  configHere : Bool
  entry : Option String
  evals : List String
  daemon : Bool
  timeout : Option Nat
  shutdownTimeout : Option Nat

/-- Nothing read yet. -/
def State.start : State := ⟨.top, none, false, none, [], false, none, none⟩

/-- A number of milliseconds. -/
def millis (value option : String) : Except UsageFault Nat :=
  let digits := match value.toList with
    | '+' :: rest => rest
    | cs => cs
  if value.isEmpty then .error (.badValue value option "cannot parse integer from empty string")
  else if digits.isEmpty || !digits.all Char.isDigit then
    .error (.badValue value option "invalid digit found in string")
  else
    let n := digits.foldl (fun n c => n * 10 + (c.toNat - '0'.toNat)) 0
    if n ≤ maxWord then .ok n
    else .error (.badValue value option "number too large to fit in target type")

/-- Take an option with its value. -/
def State.give (s : State) (flag : Flag) (value : String) : Except UsageFault State :=
  let usage := flag.usage s.level
  match flag with
  | .config =>
      if s.configHere then .error (.repeated usage)
      else if value.isEmpty then .error (.missingValue usage)
      else .ok { s with config := some value, configHere := true }
  | .eval =>
      if s.level = .evaluate && !s.evals.isEmpty then .error (.repeated usage)
      else .ok { s with evals := s.evals ++ [value] }
  | .timeout =>
      if s.timeout.isSome then .error (.repeated usage)
      else return { s with timeout := some (← millis value usage) }
  | .shutdownTimeout =>
      if s.shutdownTimeout.isSome then .error (.repeated usage)
      else return { s with shutdownTimeout := some (← millis value usage) }
  | _ => .error (.unwantedValue value usage)

/-- Take an option without a value. -/
def State.set (s : State) (flag : Flag) : Except UsageFault State :=
  match flag with
  | .help => .error .help
  | .version => .error .version
  | .daemon => if s.daemon then .error (.repeated "--daemon") else .ok { s with daemon := true }
  | flag => .error (.missingValue (flag.usage s.level))

/-- Take an argument that is no option. -/
def State.argument (s : State) (value : String) : Except UsageFault State :=
  match s.level with
  | .top =>
      match value with
      | "run" => .ok { s with level := .run, configHere := false }
      | "repl" => .ok { s with level := .evaluate, configHere := false }
      | "help" => .error .help
      | other => .error (.unknownCommand other)
  | .run =>
      if s.entry.isSome then .error (.unexpected value) else .ok { s with entry := some value }
  | .evaluate => .error (.unexpected value)

/-- Take an argument after which nothing counts as an option. -/
def State.positional (s : State) (value : String) : Except UsageFault State :=
  if s.level = .top then .error (.unexpected value) else s.argument value

/-- What an argument is. -/
inductive Shape where
  | separator
  /-- An option, with its own name and with a value behind an equals sign or its name. -/
  | option (flag : Flag) (value : Option String)
  | unknown (name : String)
  | argument
  deriving DecidableEq, Inhabited

/-- The shape of an argument. -/
def shape (level : Level) (text : String) : Shape :=
  match text.toList with
  | ['-', '-'] => .separator
  | '-' :: '-' :: rest =>
      let (name, value) := rest.span (· ≠ '=')
      let name := String.ofList name
      match Flag.ofLong? level name with
      | none => .unknown ("--" ++ name)
      | some flag => .option flag (match value with
          | [] => none
          | _ :: value => some (String.ofList value))
  | '-' :: name :: rest =>
      match Flag.ofShort? level name with
      | none => .unknown ("-" ++ String.singleton name)
      | some flag => .option flag (match rest with
          | [] => none
          | '=' :: value => some (String.ofList value)
          | value => some (String.ofList value))
  | _ => .argument

/-- Read arguments.  An option that still waits for its value gets it from the next argument. -/
def State.read (s : State) (waiting : Option Flag) (options : Bool) :
    List String → Except UsageFault State
  | [] =>
      match waiting with
      | some flag => .error (.missingValue (flag.usage s.level))
      | none => .ok s
  | text :: rest => do
      if !options then (← s.positional text).read none false rest
      else
        match shape s.level text, waiting with
        | .argument, some flag => (← s.give flag text).read none true rest
        | .argument, none => (← s.argument text).read none true rest
        | .unknown name, _ => .error (.unexpected name)
        | _, some flag => .error (.missingValue (flag.usage s.level))
        | .separator, none => s.read none false rest
        | .option flag (some value), none => (← s.give flag value).read none true rest
        | .option flag none, none =>
            if flag.hasValue then s.read (some flag) true rest
            else (← s.set flag).read none true rest

/-- The command line that has been read. -/
def State.commandLine (s : State) : CommandLine :=
  ⟨s.config,
    match s.level with
    | .run => .run s.entry s.evals s.daemon s.timeout s.shutdownTimeout
    | _ => .evaluate s.evals.head?⟩

/-- Read a command line. -/
def read (arguments : List String) : Except UsageFault CommandLine :=
  (State.start.read none true arguments).map State.commandLine

end CommandLine

/-- The name and the version of the program. -/
def versionLine : String := "hubscript 0.1.0"

/-- What is shown where help is asked for. -/
def usageLines : List String :=
  ["hubscript runs Lua scripts on a single interpreter thread while timers,",
    "sockets and HTTP requests run in the background.",
    "",
    "Run a script:  hubscript run script.lua",
    "Eval code:     hubscript run -e 'print(1 + 1)'",
    "Interactive:   hubscript",
    "",
    "Usage: hubscript [OPTIONS] [COMMAND]"]

end ScriptHost.Session
