import ScriptHost.Data.Table

/-!
# Background tasks

Work that the host does for the guest is tracked as tasks.  A task is forgotten as soon as it has
finished, so the tasks on the list are the unfinished ones; aborting forgets them all.

A task here waits for one thing: for nothing, for a gate, or for a time.  A gate that is dropped
without being opened ends its task as well.
-/

namespace ScriptHost.Background

/-- What a task waits for. -/
inductive Wait where
  | nothing
  | gate (number : Nat)
  | time (due : Nat)
  deriving DecidableEq

/-- The unfinished tasks, in the order of their start, with the clock and the gates. -/
structure Tasks where
  unfinished : List Wait
  /-- The gates that can still be opened, by name. -/
  gates : Table String Nat
  nextGate : Nat
  now : Nat

namespace Tasks

/-- No tasks, at time zero. -/
def empty : Tasks := ⟨[], .empty, 0, 0⟩

instance : Inhabited Tasks := ⟨empty⟩

/-- Whether a task can run to its end. -/
def canFinish (t : Tasks) : Wait → Bool
  | .nothing => true
  | .gate number => !t.gates.values.contains number
  | .time due => due ≤ t.now

/-- Let every task that can finish do so. -/
def settle (t : Tasks) : Tasks :=
  { t with unfinished := t.unfinished.filter fun w => !t.canFinish w }

/-- Start a task. -/
def spawn (t : Tasks) (w : Wait) : Tasks := { t with unfinished := t.unfinished ++ [w] }

/-- Start a task that waits for a gate with a name.  An older gate of that name is dropped. -/
def spawnGated (t : Tasks) (name : String) : Tasks :=
  { t.spawn (.gate t.nextGate) with
    gates := t.gates.insert name t.nextGate
    nextGate := t.nextGate + 1 }

/-- Open the gate with a name: whether a task was waiting for it. -/
def openGate (t : Tasks) (name : String) : Bool × Tasks :=
  match t.gates.get? name with
  | none => (false, t)
  | some number =>
      (t.unfinished.contains (.gate number), { t with gates := t.gates.erase name })

/-- The number of unfinished tasks. -/
def liveCount (t : Tasks) : Nat := t.unfinished.length

/-- Abort every unfinished task and forget it: how many there were. -/
def abortAll (t : Tasks) : Nat × Tasks := (t.unfinished.length, { t with unfinished := [] })

/-- Set the clock forward. -/
def advance (t : Tasks) (millis : Nat) : Tasks := { t with now := t.now + millis }

end Tasks
end ScriptHost.Background
