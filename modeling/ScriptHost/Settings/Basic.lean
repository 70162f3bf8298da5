/-!
# Settings

The numbers that a host is configured with.  Lengths of time are in milliseconds.  An absent limit
for the main script means the longest time there is (`endlessMillis`).
-/

namespace ScriptHost

/-- Settings of the termination watchdog. -/
structure WatchdogSettings where
  /-- How many equal polls end an idle run. -/
  stabilityThreshold : Nat
  pollIntervalMillis : Nat
  shutdownTimeoutMillis : Nat
  deriving DecidableEq, Inhabited

/-- Settings of network operations. -/
structure NetworkSettings where
  /-- How long a read waits for data; a read that does not wait has zero. -/
  readTimeoutMillis : Nat
  maxReadBytes : Nat
  httpTimeoutMillis : Nat
  deriving DecidableEq, Inhabited

/-- Settings of a host. -/
structure HostSettings where
  /-- How many jobs may wait for the interpreter. -/
  jobCapacity : Nat
  executionTimeoutMillis : Nat
  mainTimeoutMillis : Option Nat
  watchdog : WatchdogSettings
  network : NetworkSettings
  deriving DecidableEq, Inhabited

/-- The longest length of time: it stands for "without end". -/
def endlessMillis : Nat := 18446744073709551615999

namespace WatchdogSettings

/-- The settings unless others are given. -/
def standard : WatchdogSettings := ⟨3, 100, 30000⟩

/-- The time between two polls, at least one millisecond. -/
def pollInterval (s : WatchdogSettings) : Nat := max 1 s.pollIntervalMillis

end WatchdogSettings

namespace NetworkSettings

/-- The settings unless others are given. -/
def standard : NetworkSettings := ⟨0, 65536, 10000⟩

/-- How many bytes a read may take: what it asks for, if anything, but at least one and never more
than the settings allow. -/
def readLimit (s : NetworkSettings) (requested : Option Nat) : Nat :=
  let limit := max 1 s.maxReadBytes
  max 1 (min (requested.getD limit) limit)

end NetworkSettings

namespace HostSettings

/-- The settings unless others are given. -/
def standard : HostSettings := ⟨64, 30000, none, .standard, .standard⟩

/-- How long the main script may run. -/
def mainTimeout (s : HostSettings) : Nat := s.mainTimeoutMillis.getD endlessMillis

/-- Other limits for executions and for the wait at the end, where they are given. -/
def withLimits (s : HostSettings) (executionMillis shutdownMillis : Option Nat) : HostSettings :=
  { s with
    executionTimeoutMillis := executionMillis.getD s.executionTimeoutMillis
    mainTimeoutMillis := executionMillis.orElse fun _ => s.mainTimeoutMillis
    watchdog.shutdownTimeoutMillis := shutdownMillis.getD s.watchdog.shutdownTimeoutMillis }

/-- How many jobs may wait for the interpreter: one at least. -/
def jobRoom (s : HostSettings) : Nat := max 1 s.jobCapacity

end HostSettings
end ScriptHost
