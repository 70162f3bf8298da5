import ScriptHost.Ready.Closures
import ScriptHost.Ready.Pass

/-!
# Scripted guests

A scripted guest has closures whose bodies are lists of actions on the queue and on the table of
closures.  It is the smallest guest that can do everything to the two that guest code can do, and it
keeps a record of its calls.
-/

namespace ScriptHost.Guest

open Ready

/-- How the call of a scripted closure ends. -/
inductive Ending where
  | return_
  | skip
  | raise (message : String)

mutual

/-- A closure with a scripted body. -/
inductive Script where
  | mk (name : String) (actions : List Action) (ending : Ending)

/-- An action of a scripted guest. -/
inductive Action where
  | enqueue (c : Callback)
  | drain
  | discard (timer : Nat)
  | clear
  | takeToken
  | insertTimer (id : Nat) (repeating : Bool) (script : Script)
  | insertCompletion (script : Script)
  | release (target : Target)
  | releaseAll
  /-- An action that the guest does not know. -/
  | unknown (name : String)

end

instance : Inhabited Script := ⟨.mk "" [] .return_⟩

instance : Inhabited Action := ⟨.releaseAll⟩

/-- The name of a scripted closure. -/
def Script.name : Script → String
  | .mk name _ _ => name

/-- What an action answers. -/
inductive Answer where
  | nothing
  | flag (b : Bool)
  | count (n : Nat)
  | batch (callbacks : List Callback)
  | name (n : Option String)
  | unknown (action : String)

/-- The record of one call. -/
structure Call where
  name : String
  outcome : Option Outcome
  answers : List Answer

/-- What a scripted guest keeps besides the queue: its closures, and its calls, the last one
first. -/
structure Scripted where
  closures : Closures Script
  calls : List Call

/-- A scripted guest with nothing registered. -/
def Scripted.empty : Scripted := ⟨.empty, []⟩

/-- Perform one action. -/
def Action.perform (world : Queue × Scripted) : Action → Answer × (Queue × Scripted)
  | .enqueue c => let (accepted, q) := world.1.enqueue c; (.flag accepted, q, world.2)
  | .drain => let (batch, q) := world.1.drain; (.batch batch, q, world.2)
  | .discard timer => let (found, q) := world.1.discard timer; (.flag found, q, world.2)
  | .clear => let (dropped, q) := world.1.clear; (.count dropped, q, world.2)
  | .takeToken => let (found, q) := world.1.takeToken; (.flag found, q, world.2)
  | .insertTimer id repeating script =>
      (.nothing, world.1,
        { world.2 with closures := world.2.closures.insertTimer id script repeating })
  | .insertCompletion script =>
      let (id, closures) := world.2.closures.insertCompletion script
      (.count id, world.1, { world.2 with closures })
  | .release target =>
      let (script, closures) := world.2.closures.release target
      (.name (script.map Script.name), world.1, { world.2 with closures })
  | .releaseAll => (.nothing, world)
  | .unknown name => (.unknown name, world)

/-- Perform actions in order. -/
def performAll (world : Queue × Scripted) : List Action → List Answer × (Queue × Scripted)
  | [] => ([], world)
  | a :: rest =>
      let (answer, world) := a.perform world
      let (answers, world) := performAll world rest
      (answer :: answers, world)

/-- Run the closure of a ready callback: its actions first, then its ending. -/
def Scripted.invoke : Invoke (Queue × Scripted) := fun c world =>
  let (found, closures) := world.2.closures.resolve c.target
  match found with
  | none => (.returned .skipped, world.1, { world.2 with closures })
  | some (.retained (.mk name actions ending)) | some (.removed (.mk name actions ending)) =>
      let (answers, queue, guest) := performAll (world.1, { world.2 with closures }) actions
      let guest := { guest with calls := ⟨name, c.outcome, answers⟩ :: guest.calls }
      let finish : Finish Invocation := match ending with
        | .return_ => .returned .invoked
        | .skip => .returned .skipped
        | .raise message => .raised message
      (finish, queue, guest)

end ScriptHost.Guest
