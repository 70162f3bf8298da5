import ScriptHost.Desk.Program
import ScriptHost.Lua.Arguments

/-!
# Computations of Lua

A computation changes the heap, asks the desk, and goes on with a result or with a raised value.  It
is given what follows in either case, and is a program as soon as it is given a heap.
-/

namespace ScriptHost.Lua

/-- Guest programs in Lua: closures are values, and the memory is the heap. -/
abbrev Program := Desk.Program Val Heap

/-- A computation with a result of type `α`. -/
def Run (α : Type) : Type := Heap → (α → Heap → Program) → (Val → Heap → Program) → Program

namespace Run

variable {α : Type}

instance : Monad Run where
  pure a := fun h return_ _ => return_ a h
  bind m k := fun h return_ raise => m h (fun a h => k a h return_ raise) raise

/-- The heap. -/
def heap : Run Heap := fun h return_ _ => return_ h h

/-- Something about the heap. -/
def look (f : Heap → α) : Run α := fun h return_ _ =>
  let a := f h
  return_ a h

/-- Change the heap. -/
def modify (f : Heap → Heap) : Run Unit := fun h return_ _ => return_ () (f h)

/-- Change the heap, with a result. -/
def update (f : Heap → α × Heap) : Run α := fun h return_ _ =>
  let (a, h) := f h
  return_ a h

/-- Raise a value. -/
def raise (v : Val) : Run α := fun h _ raise => raise v h

/-- Raise text. -/
def fail (message : String) : Run α := raise (.ofString message)

/-- Be at work for a moment. -/
def pause : Run Unit := fun h return_ _ => .pause fun _ => return_ () h

/-- Go on for ever. -/
def endless : Run α := fun _ _ _ => .endless

/-- The result of a computation, or the value that it has raised. -/
def attempt (m : Run α) : Run (Except Val α) := fun h return_ _ =>
  m h (fun a h => return_ (.ok a) h) fun v h => return_ (.error v) h

/-- Ask the desk. -/
def ask (request : Desk.Ask Val) : Run Desk.Answer := fun h return_ _ =>
  .ask request fun answer => return_ answer h

end Run

/-- What a host function gives back. -/
def answerValues : Desk.Answer → Run (List Val)
  | .done => pure []
  | .id n => pure [Val.ofInt n]
  | .flag b => pure [.bool b]
  | .refused .urlMissing => Run.raise (.fault ("runtime error: " ++ Desk.Refusal.message .urlMissing))
  | .refused why => Run.raise (.fault why.message)

/-- Call a host function. -/
def callHost (f : HostFunction) (args : List Val) : Run (List Val) := do
  match ← Run.look fun h => f.ask h args with
  | .error message => Run.raise (.fault message)
  | .ok request => answerValues (← Run.ask request)

end ScriptHost.Lua
