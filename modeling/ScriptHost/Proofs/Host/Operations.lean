import ScriptHost.Proofs.Host.Programs
import ScriptHost.Proofs.Host.Rest
import ScriptHost.Proofs.Network.Active

/-!
# Operations of a running host

A host aborts all operations at once, when it is torn down, concluded or dropped.  If some of them
have not run by then, their counts stay behind in every tally that is taken later.
-/

namespace ScriptHost

open Desk (Language State)
open Network (Coordinator)
open Ready (Callback Closures)

/-- Requests of guest code start operations and close handles. -/
theorem Network.Coordinator.Balanced.effect {F : Type} {s s' : Services} {n : Nat}
    {closures closures' : Closures F} {request : Desk.Ask F} (h : s.network.Balanced n)
    (heffect : Desk.Effect s closures request s' closures') : s'.network.Balanced n := by
  cases heffect with
  | starts closure request => exact h.start request _
  | closes kind handle => exact h.handles _
  | nothing | creates | clears => exact h

namespace Host

variable {σ F μ : Type}

/-- How many operations an event aborts before their tasks have run. -/
def losses (h : Host σ) : Event → Nat
  | .tearDown => h.services.network.losses .abortAll
  | .conclude => if h.isRunning then 0 else h.services.network.losses .abortAll
  | .drop => if h.held then h.services.network.losses .abortAll else 0
  | _ => 0

/-- How many operations a run aborts before their tasks have run. -/
def lost (g : Guest σ) : Host σ → List Event → Nat
  | _, [] => 0
  | h, e :: events => h.losses e + lost g (react g h e) events

variable {l : Language F μ} {h : Host (State F μ)} {batch : List Callback} {n : Nat}

theorem balanced_work (hbalanced : h.services.network.Balanced n)
    (hshaped : Shaped l batch h.interpreter) :
    ((h.work? l.guest).getD h).services.network.Balanced n := by
  rcases services_work hshaped with ⟨request, closures', heffect⟩ | hdrained | hsame
  · exact hbalanced.effect heffect
  · rw [hdrained]
    exact hbalanced
  · rw [hsame]
    exact hbalanced

theorem balanced_react (hbalanced : h.services.network.Balanced n)
    (hshaped : Shaped l batch h.interpreter) (e : Event) :
    (react l.guest h e).services.network.Balanced (n + h.losses e) := by
  cases e with
  | work => exact balanced_work hbalanced hshaped
  | takeJob =>
      rw [react, services_takeJob]
      exact hbalanced
  | takeToken =>
      rw [react, takeToken?]
      split <;> exact hbalanced
  | disconnect =>
      rw [react, services_disconnect]
      exact hbalanced
  | stop =>
      rw [react, services_stop]
      exact hbalanced
  | wakeTimer id =>
      show (h.services.wakeTimer id).network.Balanced n
      rw [Services.wakeTimer]
      split <;> exact hbalanced
  | begin op => exact hbalanced.begin op
  | reply op r => exact hbalanced.reply op r
  | giveUpOperation op => exact hbalanced.giveUp op
  | deliver op => exact hbalanced.deliver h.services.queue op
  | retire op => exact hbalanced.retire op
  | tearDown => exact hbalanced.abortAll.handles _
  | conclude =>
      rw [react, conclude, losses]
      split
      · exact hbalanced
      · exact hbalanced.abortAll.handles _
  | drop =>
      rw [react, drop, losses]
      split
      · show (h.stop.services.network.abortAll.2).Balanced _
        rw [services_stop]
        exact hbalanced.abortAll
      · exact hbalanced
  | submit | enter | giveUp | collect | elapse | cancelTimer | offer | signal | discard | cloneBridge
  | dropBridge => exact hbalanced

theorem balanced_run (events : List Event) : ∀ {h : Host (State F μ)} {batch : List Callback} {n : Nat},
    h.services.network.Balanced n → Shaped l batch h.interpreter →
      (run l.guest h events).services.network.Balanced (n + lost l.guest h events) := by
  induction events with
  | nil => exact fun hbalanced _ => hbalanced
  | cons e events ih =>
      intro h batch n hbalanced hshaped
      have hrun := ih (balanced_react hbalanced hshaped e) (hshaped.react e)
      rw [Nat.add_assoc] at hrun
      exact hrun

/-- Whatever happens to a host, its count of active operations is that of the operations whose task
has not ended and of those that it has aborted before their tasks had run. -/
theorem active_eq (l : Language F μ) (memory : μ) (capacity : Nat) (events : List Event) :
    let start := fresh capacity (State.start memory)
    (run l.guest start events).services.network.active =
      (run l.guest start events).services.network.operations.size + lost l.guest start events := by
  intro start
  have hbalanced : start.services.network.Balanced 0 := Coordinator.balanced_empty
  have hrun := balanced_run (l := l) events hbalanced (.between rfl)
  rw [Nat.zero_add] at hrun
  exact hrun.active

/-- A language whose script starts to listen and ends. -/
def listeners : Language Unit Unit where
  execute _ _ := .ask (.start () (.listen "127.0.0.1" 0)) fun _ => .finish (.returned .null) ()
  call _ _ _ := .finish (.returned .null) ()

/-- The host is torn down right after the request: no operation is left, and its count is. -/
example :
    let h := run listeners.guest (fresh 1 (State.start ()))
      [.submit false "" "" 0, .enter 1, .takeJob, .work, .work, .tearDown]
    h.services.network.operations.size = 0 ∧ h.services.network.active = 1 :=
  ⟨rfl, rfl⟩

end Host
end ScriptHost
