import ScriptHost.Proofs.Host.Torn
import ScriptHost.Proofs.Host.Visits
import ScriptHost.Proofs.Service.Teardown

/-!
# Tearing down a host

While no guest code runs, the interpreter of a host does nothing to the services but empty the queue, and
the other threads only go on with what there is (`dozes_react`).  So a host that has been torn down stays
torn down until guest code runs again: whatever is put into its queue is put there by somebody who does it
by hand.
-/

namespace ScriptHost.Host

open Desk (Language State)
open Ready (Callback Queue)
open Network (Coordinator)

variable {F μ : Type} {l : Language F μ} {h : Host (State F μ)} {batch : List Callback}

/-- Whether somebody puts a callback into the queue who is neither a timer nor an operation. -/
def Event.isOffer : Event → Bool
  | .offer _ => true
  | _ => false

/-- What the interpreter does to the services while no guest code runs. -/
theorem dozes_work (hshaped : Shaped l batch h.interpreter) (houtside : isInside h.interpreter = false) :
    h.services.Dozes ((h.work? l.guest).getD h).services 0 := by
  rcases (moves hshaped).1 with ⟨hcontinues, -, -⟩ | ⟨⟨rest, counts, hlooks⟩, -, -⟩ | ⟨hservices, -, -⟩ |
    ⟨hservices, -, -⟩
  · generalize h.interpreter = i at hcontinues houtside
    cases hcontinues with
    | executing | invoking => cases houtside
  · rw [hlooks] at houtside
    cases houtside
  · rw [hservices]
    exact Services.dozes_drain _
  · rw [hservices]
    exact .refl _

/-- What happens to the services while no guest code runs. -/
theorem dozes_react (hshaped : Shaped l batch h.interpreter) (houtside : isInside h.interpreter = false)
    (e : Event) :
    h.services.Dozes (react l.guest h e).services (if Event.isOffer e then 1 else 0) := by
  cases e with
  | work => exact dozes_work hshaped houtside
  | takeJob =>
      rw [react, services_takeJob]
      exact .refl _
  | disconnect =>
      rw [react, services_disconnect]
      exact .refl _
  | stop =>
      rw [react, services_stop]
      exact .refl _
  | takeToken =>
      rw [react, takeToken?]
      split
      · rename_i htoken
        have hqueue := congrArg Prod.snd htoken
        subst hqueue
        exact .ofQueue rfl fun _ hempty => hempty
      · exact .refl _
  | elapse millis => exact .ofTimers fun h => h
  | wakeTimer id => exact Services.dozes_wakeTimer _ id
  | cancelTimer id => exact Services.dozes_cancelTimer _ id
  | begin op => exact .ofNetwork fun hnone => (Coordinator.still hnone op).1
  | reply op r => exact .ofNetwork fun hnone => (Coordinator.still hnone op).2.1 r
  | giveUpOperation op => exact .ofNetwork fun hnone => (Coordinator.still hnone op).2.2.1
  | retire op => exact .ofNetwork fun hnone => (Coordinator.still hnone op).2.2.2.1
  | deliver op => exact Services.dozes_deliver _ op
  | offer c => exact .ofQueue (h.services.queue.offered_offer c) fun hnone => absurd hnone Nat.one_ne_zero
  | signal => exact .ofQueue rfl fun _ hempty => hempty
  | discard timer => exact Services.dozes_discard _ timer
  | tearDown => exact Services.dozes_tearDown _
  | conclude =>
      rw [react, conclude]
      split
      · exact .refl _
      · exact Services.dozes_tearDown _
  | drop =>
      rw [react, drop]
      split
      · rw [← services_stop h]
        exact Services.dozes_endAll _
      · exact .refl _
  | submit | enter | giveUp | collect | cloneBridge | dropBridge => exact .refl _

/-- No guest code runs when any of the events happens. -/
def Unmanned (l : Language F μ) (h : Host (State F μ)) (events : List Event) : Prop :=
  ∀ k < events.length, isInside (run l.guest h (events.take k)).interpreter = false

instance (l : Language F μ) (h : Host (State F μ)) (events : List Event) :
    Decidable (Unmanned l h events) :=
  inferInstanceAs
    (Decidable (∀ k < events.length, isInside (run l.guest h (events.take k)).interpreter = false))

theorem dozes_run (events : List Event) : ∀ {h : Host (State F μ)} {batch : List Callback},
    Shaped l batch h.interpreter → Unmanned l h events →
    h.services.Dozes (run l.guest h events).services (events.countP Event.isOffer) := by
  induction events with
  | nil => exact fun _ _ => .refl _
  | cons e events ih =>
      intro h batch hshaped houtside
      have hfirst := dozes_react hshaped (houtside 0 (Nat.succ_pos _)) e
      have hrest := ih (h := react l.guest h e) (hshaped.react e) fun k hk =>
        houtside (k + 1) (Nat.succ_lt_succ hk)
      rw [List.countP_cons, Nat.add_comm]
      exact hfirst.trans hrest

/-- **A teardown ends everything, and says what it has ended.**  Let anything have happened to a host.
After a teardown no timer is live, no operation goes on at whichever of its waits it was, no handle is
open and no callback is queued.  The report counts the timers that were live, the operations whose task
had not ended, the handles that were open, and those callbacks in the queue that were not firings of live
timers.

This stays so as long as no guest code runs: no timer and no operation comes back, no handle is opened,
and only what others offer by hand is offered to the queue.  If nobody does that the queue stays empty,
and a second teardown has nothing to report. -/
theorem teardown_ends_everything (l : Language F μ) (memory : μ) (capacity : Nat) (events : List Event) :
    let h := run l.guest (fresh capacity (State.start memory)) events
    let ended := h.tearDown.2
    h.tearDown.1 =
      ⟨h.services.timers.size, h.services.network.operations.size,
        h.services.network.handles.connections + h.services.network.handles.listeners,
        h.services.queue.entries.countP (!h.services.isLiveFiring ·)⟩ ∧
    ended.services.Spent ∧ ended.services.queue.entries = [] ∧
    ∀ later, Unmanned l ended later →
      let last := run l.guest ended later
      last.services.Spent ∧
      last.services.network.handles.next = ended.services.network.handles.next ∧
      last.services.queue.offered = ended.services.queue.offered + later.countP Event.isOffer ∧
      (later.countP Event.isOffer = 0 →
        last.services.queue.entries = [] ∧ last.tearDown.1 = ⟨0, 0, 0, 0⟩) := by
  intro h ended
  have hbetween : Shaped l [] (fresh capacity (State.start (F := F) memory)).interpreter := .between rfl
  have hshaped : Shaped l _ h.interpreter := hbetween.run
  have hindexed : h.services.queue.Indexed := indexed_run events Queue.indexed_empty hbetween
  have hspent : ended.services.Spent := h.services.spent_tearDown
  refine ⟨Services.report_tearDown hindexed, hspent, rfl, fun later houtside => ?_⟩
  intro last
  have hdozes := dozes_run later (h := ended) (hshaped.react .tearDown) houtside
  have hlast := hdozes.spent hspent
  refine ⟨hlast, hdozes.next hspent.operations, hdozes.offered hspent.timers hspent.operations,
    fun hnone => ?_⟩
  have hempty := hdozes.queue hspent.timers hspent.operations hnone rfl
  exact ⟨hempty, Services.report_of_spent hlast hempty⟩

/-- Do something to the services of a host. -/
def serve (h : Host (State F μ)) (f : Services → Services) : Host (State F μ) :=
  { h with services := f h.services }

/-- **A teardown need not be undisturbed.**  Its four parts may be as far apart as they like: if no guest
code runs in between, whatever timers, operations and other threads do there is caught by the parts that
follow. -/
theorem teardown_part_by_part (hshaped : Shaped l batch h.interpreter) (first second third : List Event) :
    let cancelled := h.serve Services.cancelTimers
    let aborted := (run l.guest cancelled first).serve Services.abortOperations
    let closed := (run l.guest aborted second).serve Services.closeHandles
    let dropped := (run l.guest closed third).serve Services.dropCallbacks
    Unmanned l cancelled first → Unmanned l aborted second → Unmanned l closed third →
      dropped.services.Spent ∧ dropped.services.queue.entries = [] := by
  intro cancelled aborted closed dropped hfirst hsecond hthird
  have hcancelled : Shaped l _ (run l.guest cancelled first).interpreter := hshaped.run (h := cancelled)
  have haborted : Shaped l _ (run l.guest aborted second).interpreter := hcancelled.run (h := aborted)
  have htimers : (run l.guest cancelled first).services.timers.size = 0 :=
    (dozes_run first (h := cancelled) hshaped hfirst).timers rfl
  have hnone : aborted.services.network.operations.size = 0 := Coordinator.size_abortAll _
  have hdozes := dozes_run second (h := aborted) hcancelled hsecond
  have hspent : closed.services.Spent := ⟨hdozes.timers htimers, hdozes.operations hnone, rfl⟩
  have hlast := (dozes_run third (h := closed) haborted hthird).spent hspent
  exact ⟨⟨hlast.timers, hlast.operations, hlast.handles⟩, rfl⟩

/-- A language whose script asks for an interval, a timer that fires once, and two operations. -/
def stations : Language Unit Unit where
  execute _ _ := .ask (.setTimer () none true) fun _ => .ask (.setTimer () none false) fun _ =>
    .ask (.start () (.listen "127.0.0.1" 0)) fun _ => .ask (.start () (.connect "127.0.0.1" 80)) fun _ =>
      .finish (.returned .null) ()
  call _ _ _ := .finish (.returned .null) ()

/-- Both timers have fired, one operation has ended with an open handle, and the other waits. -/
def stationsUp : List Event :=
  [.submit false "" "" 0, .enter 1, .takeJob] ++ List.replicate 12 .work ++
    [.elapse 1, .wakeTimer 1, .wakeTimer 2, .begin 0, .reply 0 (.bound "127.0.0.1:7"), .deliver 0,
      .retire 0, .begin 1]

/-- The wake-up and the reply come too late, and the guest drops its closures. -/
def stationsDown : List Event :=
  [.elapse 5, .wakeTimer 1, .reply 1 .connected, .deliver 1, .takeJob, .work, .work]

/-- The firing of the interval goes with it, so two of three callbacks are dropped. -/
theorem stations_torn_down :
    let h := run stations.guest (fresh 1 (State.start ())) stationsUp
    let last := run stations.guest h.tearDown.2 stationsDown
    h.services.queue.size = 3 ∧ h.tearDown.1 = ⟨1, 1, 1, 2⟩ ∧
      last.services.Spent ∧ last.tearDown.1 = ⟨0, 0, 0, 0⟩ := by
  intro h last
  obtain ⟨hreport, -, -, hlater⟩ := teardown_ends_everything stations () 1 stationsUp
  obtain ⟨hspent, -, -, hempty⟩ := hlater stationsDown (by decide)
  exact ⟨rfl, hreport.trans rfl, hspent, (hempty rfl).2⟩

end ScriptHost.Host
