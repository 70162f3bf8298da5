import ScriptHost.Host.Basic
import ScriptHost.Proofs.Desk.Correspondence
import ScriptHost.Proofs.Guest.Steps
import ScriptHost.Proofs.Submission.Calls

/-!
# Closures on a running host

While a host runs, guest code, timers, operations and passes take turns in any order.  Between any
two of their steps the table of closures agrees with what is still to come: the live timers, the
operations in flight, the queue, and the callbacks that a pass has drained and whose closures it has
not looked up (`drained`).

This is about hosts whose timers, entries and closures are left to guest code
(`Event.isOrdinary`).  When a host cancels timers itself or is torn down, the closures of what it has
ended stay behind until the guest drops all of them.
-/

namespace ScriptHost

open Desk (Language State)
open Ready (Callback)

/-- Whether an event leaves timers, entries and closures to guest code, to the timers and to the
operations: nothing is cancelled from outside or put into the queue by hand, and nobody tears the host
down or asks it to stop. -/
def Event.isOrdinary : Event → Bool
  | .cancelTimer _ | .offer _ | .discard _ | .tearDown | .stop | .conclude | .drop => false
  | _ => true

namespace Host

variable {σ F μ : Type}

/-- The callbacks that a pass has drained and whose closures it has not looked up, after an event. -/
def drainedAfter (h : Host σ) (batch : List Callback) : Event → List Callback
  | .work =>
      match h.interpreter with
      | .draining => h.services.queue.drain.1
      | .invoking _ rest _ => rest
      | _ => batch
  | _ => batch

/-- The callbacks that a pass has drained and whose closures it has not looked up, after a run. -/
def drained (g : Guest σ) : Host σ → List Callback → List Event → List Callback
  | _, batch, [] => batch
  | h, batch, e :: events => drained g (react g h e) (drainedAfter h batch e) events

/-- How the drained callbacks show in what the interpreter is doing: they are the rest of the batch,
with the callback in front that it has just begun to run.  A panic leaves a batch behind. -/
def Awaits (l : Language F μ) (batch : List Callback) : Interpreter (State F μ) → Prop
  | .passing rest _ => batch = rest
  | .invoking code rest _ => batch = rest ∨ ∃ c, batch = c :: rest ∧ code = l.invoke c
  | .crashed _ => True
  | _ => batch = []

/-- Whether a pass has begun and has not come to its end.  A panic leaves a pass unfinished. -/
def isInPass (h : Host σ) : Bool :=
  match h.interpreter with
  | .passing _ _ | .invoking _ _ _ | .crashed _ => true
  | _ => false

/-- The correspondence as a property of the world of a guest. -/
abbrev Fits (batch : List Callback) (world : Services × State F μ) : Prop :=
  Desk.Corresponds world.1 world.2.closures batch

/-- The code that the interpreter runs keeps the correspondence. -/
def Respects (l : Language F μ) (batch : List Callback) : Interpreter (State F μ) → Prop
  | .executing _ _ code => batch = [] ∧ code.Keeps (Fits [])
  | .invoking code rest _ =>
      batch = rest ∧ code.Keeps (Fits rest) ∨ ∃ c, batch = c :: rest ∧ code = l.invoke c
  | other => Awaits l batch other

/-- What holds between any two events. -/
structure Consistent (l : Language F μ) (h : Host (State F μ)) (batch : List Callback) : Prop where
  fits : Fits batch (h.services, h.guest)
  respects : Respects l batch h.interpreter
  /-- Nobody has asked the guest to drop its closures. -/
  jobs : ∀ job ∈ h.channel.jobs, ∃ request, job = .execute request
  held : h.held = true

theorem consistent_fresh (l : Language F μ) (capacity : Nat) (memory : μ) :
    Consistent l (fresh capacity (State.start memory)) [] where
  fits := Desk.corresponds_start
  respects := rfl
  jobs _ h := by cases h
  held := rfl

/-! ## Guest code -/

theorem keeps_code (batch : List Callback) (p : Desk.Program F μ) :
    p.code.Keeps (Fits batch) := by
  induction p with
  | finish ending memory => exact ⟨fun w hw => hw, fun _ => trivial⟩
  | ask request next ih => exact ⟨fun w hw => Desk.Corresponds.perform hw request, fun w => ih _⟩
  | pause next ih => exact ⟨fun w hw => hw, fun _ => ih ()⟩
  | endless => trivial

theorem keeps_execute (l : Language F μ) (request : Guest.Request) :
    (l.guest.execute request).Keeps (Fits []) :=
  ⟨fun _ hw => hw, fun _ => keeps_code [] _⟩

/-- The first step of an invocation looks the closure up. -/
theorem advance_invoke (l : Language F μ) {c : Callback} {rest : List Callback}
    {w : Services × State F μ} (hw : Fits (c :: rest) w) :
    ∃ code, (l.invoke c).advance w = (some (.inr code), (Desk.State.resolve c w).2) ∧
      Fits rest (Desk.State.resolve c w).2 ∧ code.Keeps (Fits rest) := by
  refine ⟨_, rfl, Desk.Corresponds.resolve hw, ?_⟩
  dsimp only
  split
  · trivial
  · exact (keeps_code rest _).andThen fun _ => trivial
  · exact (keeps_code rest _).andThen fun _ => trivial

/-! ## One event -/

namespace Consistent

variable {l : Language F μ} {h : Host (State F μ)} {batch : List Callback}

theorem work (hc : Consistent l h batch) :
    Consistent l ((h.work? l.guest).getD h) (drainedAfter h batch .work) := by
  obtain ⟨services, guest, bridge, channel, interpreter, held, bridges⟩ := h
  obtain ⟨hfits, hrespects, hjobs, hheld⟩ := hc
  cases interpreter with
  | selecting | stopped | crashed message => exact ⟨hfits, hrespects, hjobs, hheld⟩
  | executed request result => exact ⟨hfits, hrespects, hjobs, hheld⟩
  | counted request result => exact ⟨hfits, hrespects, hjobs, hheld⟩
  | completed request result =>
      simp only [work?]
      split <;> exact ⟨hfits, hrespects, hjobs, hheld⟩
  | executing request since code =>
      obtain ⟨rfl, hkeeps⟩ := hrespects
      simp only [work?]
      split
      · exact ⟨hfits, ⟨rfl, hkeeps⟩, hjobs, hheld⟩
      · rename_i rest services' guest' hadvance
        obtain ⟨hfits', hrest⟩ := hkeeps.advance hfits hadvance
        exact ⟨hfits', ⟨rfl, hrest⟩, hjobs, hheld⟩
      · exact ⟨hfits, rfl, hjobs, hheld⟩
  | draining =>
      obtain rfl : batch = [] := hrespects
      exact ⟨Desk.Corresponds.drain hfits, rfl, hjobs, hheld⟩
  | passing rest counts =>
      obtain rfl : batch = rest := hrespects
      cases batch with
      | nil => exact ⟨hfits, rfl, hjobs, hheld⟩
      | cons c rest => exact ⟨hfits, .inr ⟨c, rfl, rfl⟩, hjobs, hheld⟩
  | invoking code rest counts =>
      rcases hrespects with ⟨rfl, hkeeps⟩ | ⟨c, rfl, rfl⟩
      · simp only [work?]
        split
        · exact ⟨hfits, .inl ⟨rfl, hkeeps⟩, hjobs, hheld⟩
        · rename_i next services' guest' hadvance
          obtain ⟨hfits', hnext⟩ := hkeeps.advance hfits hadvance
          exact ⟨hfits', .inl ⟨rfl, hnext⟩, hjobs, hheld⟩
        · exact ⟨hfits, trivial, hjobs, hheld⟩
        · exact ⟨hfits, rfl, hjobs, hheld⟩
      · -- The callback in front leaves the batch when its closure is looked up, not before.
        obtain ⟨next, hadvance, hfits', hnext⟩ := advance_invoke l hfits
        simp only [work?, hadvance]
        exact ⟨hfits', .inl ⟨rfl, hnext⟩, hjobs, hheld⟩

/-- Between jobs no pass has a batch. -/
theorem batch_eq_nil (hc : Consistent l h batch) (hselecting : h.interpreter = .selecting) :
    batch = [] := by
  have hrespects := hc.respects
  rw [hselecting] at hrespects
  exact hrespects

/-- The jobs that are taken are executions. -/
theorem takeJob (hc : Consistent l h batch) : Consistent l ((h.takeJob? l.guest).getD h) batch := by
  unfold takeJob?
  split
  · rename_i request channel hselecting htake
    have hjobs := Submission.Channel.take_eq_some htake
    obtain rfl := hc.batch_eq_nil hselecting
    refine ⟨hc.fits, ⟨rfl, keeps_execute l request⟩, ?_, hc.held⟩
    intro job hjob
    exact hc.jobs job (hjobs ▸ List.mem_cons_of_mem _ hjob)
  · -- Nobody has sent a job of any other kind.
    rename_i channel hselecting htake
    have hjobs := Submission.Channel.take_eq_some htake
    obtain ⟨request, hrequest⟩ := hc.jobs .releaseClosures (hjobs ▸ List.mem_cons_self)
    cases hrequest
  · rename_i channel hselecting htake
    have hjobs := Submission.Channel.take_eq_some htake
    obtain ⟨request, hrequest⟩ := hc.jobs .stop (hjobs ▸ List.mem_cons_self)
    cases hrequest
  · exact hc

theorem takeToken (hc : Consistent l h batch) : Consistent l (h.takeToken?.getD h) batch := by
  unfold takeToken?
  split
  · rename_i queue hselecting htake
    have hqueue : queue = { h.services.queue with token := false } :=
      (Prod.mk.inj htake).2.symm
    obtain rfl := hc.batch_eq_nil hselecting
    rw [hqueue]
    exact ⟨hc.fits.token false, rfl, hc.jobs, hc.held⟩
  · exact hc

/-- The host is there, so more jobs may come. -/
theorem disconnect (hc : Consistent l h batch) :
    Consistent l ((h.disconnect? l.guest).getD h) batch := by
  have hconnected : h.isDisconnected = false := by
    rw [isDisconnected, hc.held]
    rfl
  unfold disconnect?
  split
  · rw [hconnected]
    exact hc
  · exact hc

theorem enter (hc : Consistent l h batch) (call : Nat) : Consistent l (h.enter call) batch := by
  refine ⟨hc.fits, hc.respects, ?_, hc.held⟩
  show ∀ job ∈ (h.bridge.enter h.channel call).2.jobs, _
  rcases h.bridge.enter_cases h.channel call with
    hnothing | ⟨made, -, -, ⟨entered, hsend, henter⟩ | ⟨-, henter⟩⟩
  · rw [hnothing]
    exact hc.jobs
  · rw [henter, Submission.Channel.send_eq_ok hsend]
    intro job hjob
    rw [List.mem_append, List.mem_singleton] at hjob
    rcases hjob with hjob | rfl
    · exact hc.jobs job hjob
    · exact ⟨made.request, rfl⟩
  · rw [henter]
    exact hc.jobs

/-- Events of the services. -/
theorem services (hc : Consistent l h batch) {services : Services}
    (hfits : Desk.Corresponds services h.guest.closures batch) :
    Consistent l { h with services } batch :=
  ⟨hfits, hc.respects, hc.jobs, hc.held⟩

theorem react (hc : Consistent l h batch) (e : Event) (he : e.isOrdinary = true) :
    Consistent l (Host.react l.guest h e) (drainedAfter h batch e) := by
  cases e with
  | submit | giveUp | collect | cloneBridge | dropBridge =>
      exact ⟨hc.fits, hc.respects, hc.jobs, hc.held⟩
  | enter call => exact hc.enter call
  | takeJob => exact hc.takeJob
  | takeToken => exact hc.takeToken
  | disconnect => exact hc.disconnect
  | work => exact hc.work
  | elapse millis => exact hc.services (Desk.Corresponds.elapse hc.fits _)
  | wakeTimer id => exact hc.services (Desk.Corresponds.wakeTimer hc.fits id)
  | begin op =>
      exact hc.services (Desk.Corresponds.network hc.fits (hc.fits.numbered.begin op)
        (Network.Coordinator.inFlight_begin _ op))
  | reply op r =>
      exact hc.services (Desk.Corresponds.network hc.fits (hc.fits.numbered.reply op r)
        (Network.Coordinator.inFlight_reply _ op r))
  | giveUpOperation op =>
      exact hc.services (Desk.Corresponds.network hc.fits (hc.fits.numbered.giveUp op)
        (Network.Coordinator.inFlight_giveUp _ op))
  | deliver op => exact hc.services (Desk.Corresponds.deliver hc.fits op)
  | retire op =>
      exact hc.services (Desk.Corresponds.network hc.fits (hc.fits.numbered.retire op)
        (Network.Coordinator.inFlight_retire _ op))
  | signal => exact hc.services (Desk.Corresponds.token hc.fits true)
  | cancelTimer | offer | discard | tearDown | stop | conclude | drop => cases he

end Consistent

/-! ## A run -/

/-- The correspondence holds after any run of ordinary events. -/
theorem Consistent.run {l : Language F μ} {events : List Event} :
    ∀ {h : Host (State F μ)} {batch : List Callback}, Consistent l h batch →
      (∀ e ∈ events, e.isOrdinary = true) →
      Consistent l (Host.run l.guest h events) (drained l.guest h batch events) := by
  induction events with
  | nil => exact fun hc _ => hc
  | cons e events ih =>
      intro h batch hc hordinary
      obtain ⟨he, hevents⟩ := List.forall_mem_cons.1 hordinary
      exact ih (hc.react e he) hevents

theorem Respects.awaits {l : Language F μ} {batch : List Callback}
    {interpreter : Interpreter (State F μ)} (h : Respects l batch interpreter) :
    Awaits l batch interpreter := by
  cases interpreter with
  | executing request since code => exact h.1
  | invoking code rest counts => exact h.imp_left And.left
  | selecting | executed | completed | counted | draining | passing | stopped | crashed => exact h

/-- A batch is there only during a pass. -/
theorem Awaits.eq_nil {l : Language F μ} {h : Host (State F μ)} {batch : List Callback}
    (hawaits : Awaits l batch h.interpreter) (hpass : h.isInPass = false) : batch = [] := by
  unfold isInPass at hpass
  cases hinterpreter : h.interpreter with
  | passing | invoking | crashed =>
      rw [hinterpreter] at hpass
      cases hpass
  | selecting | executing | executed | completed | counted | draining | stopped =>
      rw [hinterpreter] at hawaits
      exact hawaits

/-- **The table of closures says what is still to come**, between any two steps of guest code, timers,
operations and passes.

Whatever timer is live or has a firing in the queue has its closure.  Every closure of a timer is for
one that is live, or has a firing in the queue or among the callbacks that the pass has drained and
not begun.  A closure for a completion is there exactly as long as its operation is in flight or its
callback waits in one of these places.  So once nothing is to come, nothing is registered. -/
theorem registered_closures_correspond (l : Language F μ) (memory : μ) (capacity : Nat)
    {events : List Event} (hordinary : ∀ e ∈ events, e.isOrdinary = true) :
    let start := fresh capacity (State.start memory)
    let h := Host.run l.guest start events
    let batch := drained l.guest start [] events
    let closures := h.guest.closures
    Awaits l batch h.interpreter ∧
    (∀ id, h.services.timers.isLive id = true ∨
        (∃ c ∈ h.services.queue.entries, c.target = .timer id) →
      closures.contains (.timer id) = true) ∧
    (∀ id, closures.contains (.timer id) = true →
      h.services.timers.isLive id = true ∨
        (∃ c ∈ h.services.queue.entries, c.target = .timer id) ∨
        ∃ c ∈ batch, c.target = .timer id) ∧
    (∀ id, closures.contains (.completion id) = true ↔
      (∃ op o, h.services.network.operations.get? op = some o ∧ o.completion = id ∧
          o.stage.isQueued = false) ∨
        (∃ c ∈ h.services.queue.entries, c.target = .completion id) ∨
        ∃ c ∈ batch, c.target = .completion id) ∧
    (h.services.timers.size = 0 →
      (∀ op o, h.services.network.operations.get? op = some o → o.stage.isQueued = true) →
      h.services.queue.isEmpty = true → h.isInPass = false → closures.size = 0) := by
  intro start h batch closures
  have hc : Consistent l h batch := (consistent_fresh l capacity memory).run hordinary
  refine ⟨hc.respects.awaits, ?_, ?_, ?_, ?_⟩
  · intro id huse
    rw [← Desk.sources_timer_pos_iff, ← Ready.Queue.count_pos_iff] at huse
    exact hc.fits.contains_of_use huse
  · intro id hcontains
    rw [← Desk.sources_timer_pos_iff, ← Ready.Queue.count_pos_iff, ← Ready.occurrences_pos_iff]
    exact hc.fits.use_of_contains hcontains
  · intro id
    rw [← Network.Coordinator.inFlight_pos_iff, ← Ready.Queue.count_pos_iff, ← Ready.occurrences_pos_iff]
    exact hc.fits.contains_completion_iff id
  · intro htimers hnetwork hqueue hpass
    have hbatch : batch = [] := hc.respects.awaits.eq_nil hpass
    have hfits : Desk.Corresponds h.services closures [] := hbatch ▸ hc.fits
    refine hfits.size_eq_zero htimers (fun id => ?_) hqueue
    refine Nat.eq_zero_of_not_pos fun hpos => ?_
    obtain ⟨op, o, hget, -, hstage⟩ := (Network.Coordinator.inFlight_pos_iff _ id).1 hpos
    rw [hnetwork op o hget] at hstage
    cases hstage

/-- A language whose programs ask for one timer each and whose closures do nothing. -/
def alarms : Language Unit Unit where
  execute _ _ := .ask (.setTimer () none false) fun _ => .finish (.returned .null) ()
  call _ _ _ := .finish (.returned .null) ()

/-- The firing of a timer waits, and its closure is there for it. -/
theorem registered_closure_of_alarm :
    (Host.run alarms.guest (fresh 1 (State.start ()))
      [.submit false "" "" 0, .enter 1, .takeJob, .work, .work,
        .wakeTimer 1]).guest.closures.contains (.timer 1) = true :=
  (registered_closures_correspond alarms () 1 (by decide)).2.1 1
    (.inr ⟨.firing 1, List.mem_cons_self, rfl⟩)

end Host
end ScriptHost
