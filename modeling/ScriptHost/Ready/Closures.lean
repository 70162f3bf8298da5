import ScriptHost.Data.Table
import ScriptHost.Ready.Callback

/-!
# The table of closures

The guest registers a closure for everything it waits for.  The closure of an interval stays in the
table until it is released; any other is used once and leaves the table when it is looked up for a
call.  Timers bring their own numbers; completions are numbered here, from 1, and a number is never
given twice.
-/

namespace ScriptHost.Ready

/-- A registered closure. -/
structure Closure (α : Type) where
  value : α
  repeating : Bool

/-- Registered closures, by what they wait for. -/
structure Closures (α : Type) where
  table : Table Target (Closure α)
  nextCompletion : Nat

/-- A closure looked up for a call: it stays in the table or has left it. -/
inductive Resolved (α : Type) where
  | retained (value : α)
  | removed (value : α)

namespace Closures

variable {α : Type}

/-- No closures, and no completion number given yet. -/
def empty : Closures α := ⟨.empty, 1⟩

instance : Inhabited (Closures α) := ⟨empty⟩

/-- Register the closure of a timer, in place of one that the timer already has. -/
def insertTimer (t : Closures α) (id : Nat) (value : α) (repeating : Bool) : Closures α :=
  { t with table := t.table.insert (.timer id) ⟨value, repeating⟩ }

/-- Register the closure of an operation: its number. -/
def insertCompletion (t : Closures α) (value : α) : Nat × Closures α :=
  (t.nextCompletion,
    { table := t.table.insert (.completion t.nextCompletion) ⟨value, false⟩
      nextCompletion := t.nextCompletion + 1 })

/-- Look a closure up for a call. -/
def resolve (t : Closures α) (target : Target) : Option (Resolved α) × Closures α :=
  match t.table.get? target with
  | none => (none, t)
  | some c =>
      if c.repeating then (some (.retained c.value), t)
      else (some (.removed c.value), { t with table := t.table.erase target })

/-- Take a closure out without a call. -/
def release (t : Closures α) (target : Target) : Option α × Closures α :=
  match t.table.get? target with
  | none => (none, t)
  | some c => (some c.value, { t with table := t.table.erase target })

/-- Take all closures out. -/
def drain (t : Closures α) : List α × Closures α :=
  (t.table.values.map (·.value), { t with table := .empty })

/-- Whether something has a closure. -/
def contains (t : Closures α) (target : Target) : Bool := t.table.contains target

/-- The number of closures. -/
def size (t : Closures α) : Nat := t.table.size

/-- Whether there are no closures. -/
def isEmpty (t : Closures α) : Bool := t.table.isEmpty

end Closures
end ScriptHost.Ready
