import ScriptHost.Json.Decode
import ScriptHost.Settings.Basic

/-!
# Reading settings

Settings are a record whose fields all have standard values.  The same record is read from JSON text
and from a settings file; there an array may hold more items than a record has fields.
-/

namespace ScriptHost.Settings

open Json

/-- A field that holds a 64-bit number. -/
def wordField {α : Type} (name expected : String) (set : Nat → α → α) : RecordField α :=
  .of name (Document.word maxWord expected) set

/-- The record of the watchdog's settings. -/
def watchdogSchema (lax : Bool) : Schema WatchdogSettings where
  expected := "struct TrackerConfig"
  lax := lax
  fields :=
    [.of "stability_threshold" (Document.word 4294967295 "u32")
        fun n s => { s with stabilityThreshold := n },
      wordField "poll_interval_ms" "u64" fun n s => { s with pollIntervalMillis := n },
      wordField "shutdown_timeout_ms" "u64" fun n s => { s with shutdownTimeoutMillis := n }]

/-- The record of the network's settings. -/
def networkSchema (lax : Bool) : Schema NetworkSettings where
  expected := "struct NetworkConfig"
  lax := lax
  fields :=
    [wordField "read_timeout_ms" "u64" fun n s => { s with readTimeoutMillis := n },
      wordField "max_read_bytes" "usize" fun n s => { s with maxReadBytes := n },
      wordField "http_timeout_ms" "u64" fun n s => { s with httpTimeoutMillis := n }]

/-- The record of a host's settings. -/
def hostSchema (lax : Bool) : Schema HostSettings where
  expected := "struct RuntimeConfig"
  lax := lax
  fields :=
    [wordField "job_queue_capacity" "usize" fun n s => { s with jobCapacity := n },
      wordField "execution_timeout_ms" "u64" fun n s => { s with executionTimeoutMillis := n },
      .of "main_timeout_ms" (Document.optional (Document.word maxWord "u64"))
        fun n s => { s with mainTimeoutMillis := n },
      (watchdogSchema lax).field "tracker" (·.watchdog) fun w s => { s with watchdog := w },
      (networkSchema lax).field "network" (·.network) fun n s => { s with network := n }]

/-- Read settings from JSON text. -/
def ofJson (text : String) : Except Refusal HostSettings := do
  let (root, alone) := Document.read text
  let settings ← (hostSchema false).readInto .standard root
  if alone then .ok settings else .error .malformed

end ScriptHost.Settings
