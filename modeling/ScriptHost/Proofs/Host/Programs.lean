import ScriptHost.Proofs.Desk.Requests
import ScriptHost.Proofs.Host.History
import ScriptHost.Proofs.Host.Registration

/-!
# The programs of a running host

All that a language guest does while its host runs is to go on with a program, or to look up the
closure of the callback that a pass hands it.  `Shaped` says what code the interpreter can be in the
middle of, and `moves` what one step of it can do to the services and to the table of closures: one
request at the desk, one look-up, one drain, or nothing.
-/

namespace ScriptHost.Host

open Desk (Answer Ask Language Program State)
open Guest (Code)
open Ready (Callback Finish PassCounts)

variable {F μ : Type}

/-- The interpreter goes on with a program, as submitted source or as a called closure. -/
inductive Continues (p : Program F μ) : Interpreter (State F μ) → Prop where
  | executing (request : Guest.Request) (since : Nat) : Continues p (.executing request since p.code)
  | invoking (rest : List Callback) (counts : PassCounts) :
      Continues p (.invoking (p.code.andThen fun _ => .return_ .invoked) rest counts)

/-- The interpreter is about to look up the closure of a callback. -/
def LooksUp (l : Language F μ) (c : Callback) (h : Host (State F μ)) : Prop :=
  ∃ rest counts, h.interpreter = .invoking (l.invoke c) rest counts

/-- Whether the interpreter is between executions and passes. -/
def isBetween : Interpreter (State F μ) → Bool
  | .selecting | .executed _ _ | .completed _ _ | .counted _ _ | .draining | .stopped => true
  | _ => false

/-- What the interpreter can be doing, with the callbacks that have been drained and not looked
up. -/
inductive Shaped (l : Language F μ) : List Callback → Interpreter (State F μ) → Prop where
  | between {i : Interpreter (State F μ)} (hi : isBetween i = true) : Shaped l [] i
  | begins (request : Guest.Request) (since : Nat) :
      Shaped l [] (.executing request since (l.run request))
  | executes (p : Program F μ) (request : Guest.Request) (since : Nat) :
      Shaped l [] (.executing request since p.code)
  | executed (ending : Finish Value) (request : Guest.Request) (since : Nat) :
      Shaped l [] (.executing request since (.finish ending))
  | passes (rest : List Callback) (counts : PassCounts) : Shaped l rest (.passing rest counts)
  | looks (c : Callback) (rest : List Callback) (counts : PassCounts) :
      Shaped l (c :: rest) (.invoking (l.invoke c) rest counts)
  | invokes (p : Program F μ) (rest : List Callback) (counts : PassCounts) :
      Shaped l rest (.invoking (p.code.andThen fun _ => .return_ .invoked) rest counts)
  | invoked (ending : Finish Ready.Invocation) (rest : List Callback) (counts : PassCounts) :
      Shaped l rest (.invoking (.finish ending) rest counts)
  | crashed (batch : List Callback) (message : String) : Shaped l batch (.crashed message)

/-- What one step of the interpreter can do to the services, to the closures and to what has been
drained. -/
inductive Moves (l : Language F μ) (h h' : Host (State F μ)) (batch batch' : List Callback) :
    Prop where
  /-- A program asks the desk. -/
  | asks {request : Ask F} {next : Answer → Program F μ}
      (hcontinues : Continues (.ask request next) h.interpreter)
      (hworld : (h'.services, h'.guest) = (State.perform request (h.services, h.guest)).2)
      (hbatch : batch' = batch)
  | looks {c : Callback} (hlooks : LooksUp l c h) (hbatch : batch = c :: batch')
      (hworld : (h'.services, h'.guest) = (State.resolve c (h.services, h.guest)).2)
  | drains (hservices : h'.services = { h.services with queue := h.services.queue.drain.2 })
      (hguest : h'.guest = h.guest) (hbatch : batch' = h.services.queue.drain.1)
  | keeps (hservices : h'.services = h.services)
      (hclosures : h'.guest.closures = h.guest.closures) (hbatch : batch' = batch)

variable {l : Language F μ} {h : Host (State F μ)} {batch : List Callback}

theorem Shaped.eq_nil {i : Interpreter (State F μ)} (hshaped : Shaped l batch i)
    (hi : isBetween i = true) : batch = [] := by
  cases hshaped with
  | between _ => rfl
  | begins | executes | executed | passes | looks | invokes | invoked | crashed => cases hi

/-- What the interpreter goes on with after the answer to a request. -/
theorem continues_next {request : Ask F} {next : Answer → Program F μ}
    (hcontinues : Continues (.ask request next) h.interpreter) :
    ∃ i, (h.work? l.guest).getD h =
        { h with
          services := (State.perform request (h.services, h.guest)).2.1
          guest := (State.perform request (h.services, h.guest)).2.2
          interpreter := i } ∧
      Continues (next (State.perform request (h.services, h.guest)).1) i := by
  obtain ⟨services, guest, bridge, channel, interpreter, held, bridges⟩ := h
  cases hcontinues with
  | executing request since => exact ⟨_, rfl, .executing _ _⟩
  | invoking rest counts => exact ⟨_, rfl, .invoking _ _⟩

/-- One step of the interpreter. -/
theorem moves (hshaped : Shaped l batch h.interpreter) :
    Moves l h ((h.work? l.guest).getD h) batch (drainedAfter h batch .work) ∧
      Shaped l (drainedAfter h batch .work) ((h.work? l.guest).getD h).interpreter := by
  -- the shape is of the code that runs, so in each case the step computes
  obtain ⟨services, guest, bridge, channel, interpreter, held, bridges⟩ := h
  cases hshaped with
  | between hi =>
      cases interpreter with
      | selecting | stopped | executed | counted => exact ⟨.keeps rfl rfl rfl, .between rfl⟩
      | completed request result =>
          simp only [work?]
          split <;> exact ⟨.keeps rfl rfl rfl, .between rfl⟩
      | draining => exact ⟨.drains rfl rfl rfl, .passes _ _⟩
      | executing | passing | invoking | crashed => cases hi
  | begins request since => exact ⟨.keeps rfl rfl rfl, .executes _ _ _⟩
  | executed ending request since => exact ⟨.keeps rfl rfl rfl, .between rfl⟩
  | executes p request since =>
      cases p with
      | finish ending memory => exact ⟨.keeps rfl rfl rfl, .executed _ _ _⟩
      | ask request next => exact ⟨.asks (.executing _ _) rfl rfl, .executes _ _ _⟩
      | pause next => exact ⟨.keeps rfl rfl rfl, .executes _ _ _⟩
      | endless => exact ⟨.keeps rfl rfl rfl, .executes .endless _ _⟩
  | passes _ counts =>
      cases batch with
      | nil => exact ⟨.keeps rfl rfl rfl, .between rfl⟩
      | cons c rest => exact ⟨.keeps rfl rfl rfl, .looks c rest counts⟩
  | looks c rest counts =>
      refine ⟨.looks ⟨rest, counts, rfl⟩ rfl rfl, ?_⟩
      dsimp only [work?, Language.guest, Language.invoke, Code.advance, Option.getD_some, drainedAfter]
      -- skipped, used for the last time, or used again
      split
      · exact .invoked _ _ _
      · exact .invokes _ _ _
      · exact .invokes _ _ _
  | invokes p rest counts =>
      cases p with
      | finish ending memory =>
          refine ⟨.keeps rfl rfl rfl, ?_⟩
          -- what follows a program that returns does not follow one that raises or panics
          cases ending with
          | returned result => exact .invoked _ _ _
          | raised message => exact .invoked _ _ _
          | panicked message => exact .invoked _ _ _
      | ask request next => exact ⟨.asks (.invoking _ _) rfl rfl, .invokes _ _ _⟩
      | pause next => exact ⟨.keeps rfl rfl rfl, .invokes _ _ _⟩
      | endless => exact ⟨.keeps rfl rfl rfl, .invokes .endless _ _⟩
  | invoked ending rest counts =>
      cases ending with
      | returned result => exact ⟨.keeps rfl rfl rfl, .passes _ _⟩
      | raised message => exact ⟨.keeps rfl rfl rfl, .passes _ _⟩
      | panicked message => exact ⟨.keeps rfl rfl rfl, .crashed _ _⟩
  | crashed batch message => exact ⟨.keeps rfl rfl rfl, .crashed _ _⟩

/-- What one step of the interpreter can do to the services: what a request does, a drain, or
nothing. -/
theorem services_work (hshaped : Shaped l batch h.interpreter) :
    (∃ request closures', Desk.Effect h.services h.guest.closures request
      ((h.work? l.guest).getD h).services closures') ∨
    ((h.work? l.guest).getD h).services =
      { h.services with queue := h.services.queue.drain.2 } ∨
    ((h.work? l.guest).getD h).services = h.services := by
  rcases (moves hshaped).1 with ⟨-, hworld, -⟩ | ⟨-, -, hworld⟩ | ⟨hservices, -, -⟩ | ⟨hservices, -, -⟩
  · rw [(Prod.mk.inj hworld).1]
    exact .inl ⟨_, _, Desk.perform_effect _ _ _⟩
  · exact .inr (.inr (Prod.mk.inj hworld).1)
  · exact .inr (.inl hservices)
  · exact .inr (.inr hservices)

theorem drainedAfter_of_ne {e : Event} (hwork : e ≠ .work) : drainedAfter h batch e = batch := by
  unfold drainedAfter
  split
  · exact absurd rfl hwork
  · rfl

/-- Between its own steps the interpreter takes jobs and wake-ups, and ends. -/
theorem Shaped.react (hshaped : Shaped l batch h.interpreter) (e : Event) :
    Shaped l (drainedAfter h batch e) (Host.react l.guest h e).interpreter := by
  by_cases hwork : e = .work
  · subst hwork
    exact (moves hshaped).2
  rw [drainedAfter_of_ne hwork]
  rcases interpreter_react l.guest h e with heq | rfl | hsame | ⟨hselecting, hnext⟩
  · exact absurd heq hwork
  · rcases takeJob_cases l.guest h with ⟨-, hsame⟩ | ⟨job, hselecting, -, -, -, hjob⟩
    · rw [Host.react, hsame]
      exact hshaped
    · obtain rfl : batch = [] := hshaped.eq_nil (by rw [hselecting]; rfl)
      rw [Host.react, hjob]
      cases job with
      | execute request => exact .begins _ _
      | releaseClosures => exact .between rfl
      | stop => exact .between rfl
  · rw [hsame]
    exact hshaped
  · obtain rfl : batch = [] := hshaped.eq_nil (by rw [hselecting]; rfl)
    rcases hnext with hdraining | hstopped
    · rw [hdraining]
      exact .between rfl
    · rw [hstopped]
      exact .between rfl

theorem Shaped.run {events : List Event} :
    ∀ {h : Host (State F μ)} {batch : List Callback}, Shaped l batch h.interpreter →
      Shaped l (drained l.guest h batch events) (Host.run l.guest h events).interpreter := by
  induction events with
  | nil => exact fun hshaped => hshaped
  | cons e events ih => exact fun hshaped => ih (hshaped.react e)

end ScriptHost.Host
