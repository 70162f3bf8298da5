/-!
# Tallies of outstanding work

A tally counts, kind by kind, the work that is still outstanding.  The counts are machine words and
so is their sum, and additions are checked: if one of them goes beyond a word, it panics, and nothing
can be said of the tally.
-/

namespace ScriptHost.Quiescence

/-- The word of a number, if it is the number of one. -/
def word? (n : Nat) : Option UInt64 :=
  if n < UInt64.size then some (UInt64.ofNat n) else none

/-- The sum of two words, if it is a word. -/
def add? (a b : UInt64) : Option UInt64 := word? (a.toNat + b.toNat)

/-- The message of an addition that panics. -/
def overflowMessage : String := "attempt to add with overflow"

/-- Counts of outstanding work. -/
structure Tally where
  backgroundTasks : UInt64
  activeTimers : UInt64
  networkOperations : UInt64
  openConnections : UInt64
  openListeners : UInt64
  queuedCallbacks : UInt64
  deriving DecidableEq, Inhabited

namespace Tally

/-- The tally with nothing outstanding. -/
def zero : Tally := ⟨0, 0, 0, 0, 0, 0⟩

/-- The sum of the six counts, which are added up one after the other; there is none if an addition
panics. -/
def total? (t : Tally) : Option UInt64 := do
  let total ← add? t.backgroundTasks t.activeTimers
  let total ← add? total t.networkOperations
  let total ← add? total t.openConnections
  let total ← add? total t.openListeners
  add? total t.queuedCallbacks

/-- Whether a tally counts as idle, unless its counts cannot be added up. -/
def isIdle? (t : Tally) : Option Bool := t.total?.map fun total => decide (total = 0)

end Tally
end ScriptHost.Quiescence
