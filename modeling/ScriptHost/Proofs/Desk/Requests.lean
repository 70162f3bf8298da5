import ScriptHost.Desk.Program

/-!
# What a request does

A request that is refused changes nothing.  One that is granted creates or cancels a timer, starts an
operation or closes a handle, and registers or releases the closure that goes with it (`Effect`).
Whatever is to hold of the services and the closures after a request is read off these five cases.
-/

namespace ScriptHost.Desk

open Ready (Closures)
open Network (Kind)

variable {F : Type}

/-- From services and closures, what a request leaves behind. -/
inductive Effect (s : Services) (closures : Closures F) : Ask F → Services → Closures F → Prop where
  | nothing (request : Ask F) : Effect s closures request s closures
  | creates {delay : Option UInt64} {millis id : Nat} {repeating : Bool} {timers : Timers}
      (closure : F) (hcreate : s.timers.create millis repeating = .ok (id, timers)) :
      Effect s closures (.setTimer closure delay repeating) { s with timers }
        (closures.insertTimer id closure repeating)
  | clears (id : Nat) :
      Effect s closures (.clearTimer (some id)) (s.cancelTimer id).2
        (closures.release (.timer id)).2
  | starts (closure : F) (request : Network.Request) :
      Effect s closures (.start closure request)
        (s.startOperation request (closures.insertCompletion closure).1)
        (closures.insertCompletion closure).2
  | closes (kind : Kind) (handle : Nat) :
      Effect s closures (.close kind handle) (s.close kind handle).2 closures

theorem perform_effect (request : Ask F) (s : Services) (closures : Closures F) :
    Effect s closures request (perform request s closures).2.1 (perform request s closures).2.2 := by
  cases request with
  | setTimer closure delay repeating =>
      rw [perform]
      cases delayOf delay with
      | error fault => exact .nothing _
      | ok millis =>
          cases hcreate : s.timers.create millis repeating with
          | error fault =>
              simp only [Services.createTimer, hcreate]
              exact .nothing _
          | ok created =>
              simp only [Services.createTimer, hcreate]
              exact .creates closure hcreate
  | clearTimer timer =>
      cases timer with
      | none => exact .nothing _
      | some id => exact .clears id
  | start closure request =>
      rw [perform]
      split
      · exact .nothing _
      · exact .starts closure request
  | close kind handle => exact .closes kind handle

end ScriptHost.Desk
