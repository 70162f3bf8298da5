import ScriptHost.Data.Value

/-!
# Counters of submissions

Each counter is a machine word that is only ever increased, one at a time, by a step of its own.  A
snapshot reads the four counters one after the other, in the order of `Counter.order`; other threads
may count in between.
-/

namespace ScriptHost.Submission

/-- The counters. -/
structure Stats where
  submitted : UInt64
  completed : UInt64
  failed : UInt64
  timedOut : UInt64
  deriving DecidableEq, Inhabited

/-- One of the counters. -/
inductive Counter where
  | submitted
  | completed
  | failed
  | timedOut
  deriving DecidableEq

/-- The order in which a snapshot reads the counters. -/
def Counter.order : List Counter := [submitted, completed, failed, timedOut]

/-- The name of a counter. -/
def Counter.name : Counter → String
  | submitted => "submitted"
  | completed => "completed"
  | failed => "failed"
  | timedOut => "timed_out"

namespace Stats

/-- Nothing submitted yet. -/
def zero : Stats := ⟨0, 0, 0, 0⟩

/-- Increase each counter. -/
def add (s t : Stats) : Stats :=
  ⟨s.submitted + t.submitted, s.completed + t.completed, s.failed + t.failed,
    s.timedOut + t.timedOut⟩

/-- Read a counter. -/
def read (s : Stats) : Counter → UInt64
  | .submitted => s.submitted
  | .completed => s.completed
  | .failed => s.failed
  | .timedOut => s.timedOut

/-- Set a counter. -/
def write (s : Stats) (c : Counter) (n : UInt64) : Stats :=
  match c with
  | .submitted => { s with submitted := n }
  | .completed => { s with completed := n }
  | .failed => { s with failed := n }
  | .timedOut => { s with timedOut := n }

/-- Count one. -/
def count (s : Stats) (c : Counter) : Stats := s.write c (s.read c + 1)

/-- The snapshot whose counters are read as they are at the moment of each reading. -/
def snapshot (at_ : Counter → Stats) : Stats :=
  Counter.order.foldl (fun s c => s.write c ((at_ c).read c)) zero

/-- The counters as a datum. -/
def value (s : Stats) : Value :=
  .counts (Counter.order.map fun c => (c.name, (s.read c).toNat))

/-- Submissions that have not been completed, never less than none. -/
def inFlight (s : Stats) : Nat := s.submitted.toNat - s.completed.toNat

end Stats
end ScriptHost.Submission
