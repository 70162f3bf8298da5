import ScriptHost.Proofs.Ready.Index
import ScriptHost.Proofs.Timer.Liveness

/-!
# Timers shared by threads

Any number of threads create and cancel timers while timers fire and the queue is drained.  A step
here is what one thread does under one lock:

* a creation, the wake-up of a timer, an arming after it, a drain and a clear are one step each;
* cancelling a timer is two steps, which take it out of the live set and then drop its queued
  firing; between them the thread is on an errand (`Errand.cancelling`);
* cancelling all timers takes all of them out in one step and then drops their firings one by one,
  in any order.

A step leaves an event that says what it has seen.  The theorems on runs are about lists of events,
so they speak of every order of the steps of every thread.
-/

namespace ScriptHost.Timers

open Ready (Queue Callback Outcome)

/-- What a thread has begun and not finished. -/
inductive Errand where
  | none
  /-- The timer is out of the live set, where it was found or not; its firing is still to be
  dropped. -/
  | cancelling (id : Nat) (found : Bool)
  /-- The timers taken out of the live set, and those of them whose firings are still to be
  dropped. -/
  | cancellingAll (taken left : List Nat)

/-- The timers and the queue that they fire into, with the errands of all threads. -/
structure Shared where
  timers : Timers
  queue : Queue
  errand : Nat → Errand

/-- What a step has done. -/
inductive Event where
  | created (id : Nat)
  /-- A timer has woken up, and its firing has become an entry of the queue or has not. -/
  | woken (id : Nat) (accepted : Bool)
  | rearmed (id : Nat)
  | elapsed (millis : Nat)
  /-- The completion of an operation has become an entry. -/
  | completed (id : Nat)
  | drained (batch : List Callback)
  /-- All entries have been dropped. -/
  | cleared
  | removed (thread id : Nat) (found : Bool)
  /-- A cancellation has returned its answer. -/
  | returned (thread id : Nat) (found : Bool)
  | removedAll (thread : Nat) (taken : List Nat)
  | discarded (thread id : Nat)
  | returnedAll (thread : Nat) (taken : List Nat)

/-- An entry of a timer is put into the queue or drained from it. -/
def Event.MovesEntry (id : Nat) : Event → Prop
  | .woken j accepted => j = id ∧ accepted = true
  | .drained batch => ∃ c ∈ batch, c.target = .timer id
  | _ => False

/-- A thread finishes its errand. -/
def Event.EndsErrand (thread : Nat) : Event → Prop
  | .returned t _ _ | .returnedAll t _ => t = thread
  | _ => False

/-- A cancellation of a timer answers that it was live. -/
def Event.cancels (id : Nat) : Event → Bool
  | .returned _ j found => j = id && found
  | _ => false

/-- The event with which a thread has taken up its errand. -/
def Errand.beginning (thread : Nat) : Errand → Option Event
  | .none => Option.none
  | .cancelling id found => some (.removed thread id found)
  | .cancellingAll taken _ => some (.removedAll thread taken)

namespace Shared

/-- No timers, and every thread at leisure. -/
def start : Shared := ⟨.empty, .empty, fun _ => .none⟩

/-- Send a thread on an errand, or end the one that it is on. -/
def assign (s : Shared) (thread : Nat) (errand : Errand) : Shared :=
  { s with errand := fun t => if t = thread then errand else s.errand t }

theorem errand_assign (s : Shared) (thread t : Nat) (errand : Errand) :
    (s.assign thread errand).errand t = if t = thread then errand else s.errand t := rfl

/-- One step of one thread, or of a timer. -/
inductive Step (s : Shared) : Event → Shared → Prop where
  | create {delay : Int} {repeating : Bool} {id : Nat} {timers : Timers}
      (hcreate : s.timers.create delay repeating = .ok (id, timers)) :
      Step s (.created id) { s with timers }
  | wake (id : Nat) :
      Step s (.woken id (s.timers.isLive id && s.queue.admits (.timer id)))
        { s with
          timers := (s.timers.fire s.queue id).1
          queue := (s.timers.fire s.queue id).2 }
  | rearm (id : Nat) : Step s (.rearmed id) { s with timers := s.timers.rearm id }
  | elapse (millis : Nat) :
      Step s (.elapsed millis) { s with timers.now := s.timers.now + millis }
  | complete (id : Nat) (outcome : Outcome) :
      Step s (.completed id) { s with queue := (s.queue.enqueue (.completion id outcome)).2 }
  | drain : Step s (.drained s.queue.drain.1) { s with queue := s.queue.drain.2 }
  | clear : Step s .cleared { s with queue := s.queue.clear.2 }
  | remove {thread : Nat} (id : Nat) (hfree : s.errand thread = .none) :
      Step s (.removed thread id (s.timers.remove id).1)
        ({ s with timers := (s.timers.remove id).2 }.assign thread
          (.cancelling id (s.timers.remove id).1))
  | discard {thread id : Nat} {found : Bool} (herrand : s.errand thread = .cancelling id found) :
      Step s (.returned thread id found)
        ({ s with queue := (s.queue.discard id).2 }.assign thread .none)
  | removeAll {thread : Nat} (hfree : s.errand thread = .none) :
      Step s (.removedAll thread s.timers.live.keys)
        ({ s with timers.live := .empty }.assign thread
          (.cancellingAll s.timers.live.keys s.timers.live.keys))
  | discardOne {thread id : Nat} {taken left : List Nat}
      (herrand : s.errand thread = .cancellingAll taken left) (hid : id ∈ left) :
      Step s (.discarded thread id)
        ({ s with queue := (s.queue.discard id).2 }.assign thread
          (.cancellingAll taken (left.erase id)))
  | finishAll {thread : Nat} {taken : List Nat}
      (herrand : s.errand thread = .cancellingAll taken []) :
      Step s (.returnedAll thread taken) (s.assign thread .none)

/-- A run: one step after the other, by whichever threads. -/
inductive Run : Shared → List Event → Shared → Prop where
  | nil (s : Shared) : Run s [] s
  | cons {s t u : Shared} {e : Event} {events : List Event}
      (first : Step s e t) (rest : Run t events u) : Run s (e :: events) u

theorem Run.append {s t u : Shared} {first second : List Event} (h : Run s first t)
    (k : Run t second u) : Run s (first ++ second) u := by
  induction h with
  | nil => exact k
  | cons step _ ih => exact .cons step (ih k)

theorem Run.snoc {s t u : Shared} {events : List Event} {e : Event} (h : Run s events t)
    (step : Step t e u) : Run s (events ++ [e]) u :=
  h.append (.cons step (.nil u))

/-- What one step keeps, a run keeps. -/
theorem Run.keeps {P : Shared → Prop} {s t : Shared} {events : List Event}
    (hstep : ∀ {a b : Shared} {e : Event}, Step a e b → P a → P b) (h : Run s events t)
    (hs : P s) : P t := by
  induction h with
  | nil => exact hs
  | cons step _ ih => exact ih (hstep step hs)

/-! ## Cancelling in one go

With nothing in between, the steps of a cancellation are the operations of `Timers`. -/

theorem run_cancel (s : Shared) {thread : Nat} (id : Nat) (hfree : s.errand thread = .none) :
    ∃ t, Run s [.removed thread id (s.timers.cancel s.queue id).1,
        .returned thread id (s.timers.cancel s.queue id).1] t ∧
      t.timers = (s.timers.cancel s.queue id).2.1 ∧
      t.queue = (s.timers.cancel s.queue id).2.2 := by
  refine ⟨_, .cons (.remove id hfree) (.cons (.discard ?_) (.nil _)), rfl, rfl⟩
  rw [errand_assign, if_pos rfl]
  rfl

/-- The firings are dropped in the order in which the timers are listed. -/
theorem run_discardAll (left : List Nat) :
    ∀ (s : Shared) {thread : Nat} {taken : List Nat},
      s.errand thread = .cancellingAll taken left →
      ∃ t, Run s (left.map (.discarded thread ·) ++ [.returnedAll thread taken]) t ∧
        t.timers = s.timers ∧ t.queue = discardAll s.queue left := by
  induction left with
  | nil =>
      intro s thread taken herrand
      exact ⟨_, .cons (.finishAll herrand) (.nil _), rfl, rfl⟩
  | cons id left ih =>
      intro s thread taken herrand
      have hstep := Step.discardOne herrand (List.mem_cons_self : id ∈ id :: left)
      rw [List.erase_cons_head] at hstep
      obtain ⟨t, hrun, htimers, hqueue⟩ :=
        ih ({ s with queue := (s.queue.discard id).2 }.assign thread (.cancellingAll taken left))
          (by rw [errand_assign, if_pos rfl])
      exact ⟨t, .cons hstep hrun, htimers, hqueue⟩

theorem run_cancelAll (s : Shared) {thread : Nat} (hfree : s.errand thread = .none) :
    ∃ events t, Run s events t ∧
      t.timers = (s.timers.cancelAll s.queue).2.1 ∧
      t.queue = (s.timers.cancelAll s.queue).2.2 := by
  obtain ⟨t, hrun, htimers, hqueue⟩ :=
    run_discardAll s.timers.live.keys
      ({ s with timers.live := .empty }.assign thread
        (.cancellingAll s.timers.live.keys s.timers.live.keys))
      (by rw [errand_assign, if_pos rfl])
  exact ⟨_, t, .cons (.removeAll hfree) hrun, htimers, hqueue⟩

end Shared
end ScriptHost.Timers
