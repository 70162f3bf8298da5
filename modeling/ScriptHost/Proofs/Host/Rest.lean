import ScriptHost.Proofs.Host.History
import ScriptHost.Proofs.Quiescence.Waning

/-!
# A host at rest

A host rests while its interpreter runs no guest code and has none to run.  Then nothing starts that
was not there, whatever the other threads do (`wanes_react`), unless they put callbacks into the
queue themselves.
-/

namespace ScriptHost.Host

open Guest (Request)
open Submission (Result)

variable {σ : Type}

/-- Whether a callback that a pass has taken still runs or waits to be run. -/
def hasCallback (h : Host σ) : Bool :=
  match h.interpreter with
  | .passing rest _ => !rest.isEmpty
  | .invoking _ _ _ => true
  | _ => false

/-- Whether guest code runs or waits to be run, in a pass or as submitted source. -/
def isAtWork (h : Host σ) : Bool :=
  match h.interpreter with
  | .executing _ _ _ => true
  | _ => h.hasCallback

/-- Nothing is left to do: neither for the services nor in a pass. -/
def IsQuiet (h : Host σ) : Prop := h.services.Settled ∧ h.hasCallback = false

theorem hasCallback_eq_false {h : Host σ} (hrest : h.isAtWork = false) : h.hasCallback = false := by
  rw [isAtWork] at hrest
  split at hrest
  · cases hrest
  · exact hrest

/-- The interpreter of a host at rest empties the queue, or has nothing to do with the services. -/
theorem Works.wanes {g : Guest σ} {h h' : Host σ} {finished : List (Request × Result)}
    (hworks : Works g h finished h') (hrest : h.isAtWork = false) :
    h.services.Wanes h'.services := by
  cases hworks with
  | executes hinterpreter =>
      rw [isAtWork, hinterpreter] at hrest
      cases hrest
  | goes_on hinterpreter =>
      rw [isAtWork, hasCallback, hinterpreter] at hrest
      cases hrest
  | drains => exact .ofQueue fun _ => rfl
  | waits | finishes | completes | succeeds | fails | answers | selects | invokes | crashes | returns =>
      exact .refl _

theorem services_takeJob (g : Guest σ) (h : Host σ) :
    ((h.takeJob? g).getD h).services = h.services := by
  unfold takeJob?
  split <;> rfl

theorem services_disconnect (g : Guest σ) (h : Host σ) :
    ((h.disconnect? g).getD h).services = h.services := by
  unfold disconnect?
  split
  · split <;> rfl
  · rfl

theorem services_stop (h : Host σ) : h.stop.services = h.services := by
  rw [stop]
  split <;> rfl

/-- Nothing new comes of what happens to a host at rest. -/
theorem wanes_react (g : Guest σ) {h : Host σ} (hrest : h.isAtWork = false) {e : Event}
    (he : ∀ c, e ≠ .offer c) : h.services.Wanes (react g h e).services := by
  cases e with
  | work => exact (works g h).wanes hrest
  | takeJob =>
      rw [react, services_takeJob]
      exact .refl _
  | takeToken =>
      rw [react, takeToken?]
      split
      · rename_i htoken
        exact .ofQueue fun hempty => by
          have hqueue := congrArg Prod.snd htoken
          subst hqueue
          exact hempty
      · exact .refl _
  | disconnect =>
      rw [react, services_disconnect]
      exact .refl _
  | wakeTimer id => exact Services.wanes_wakeTimer _ id
  | cancelTimer id => exact Services.wanes_cancelTimer _ id
  | begin op => exact .ofNetwork fun hnone => (Network.Coordinator.still hnone op).1
  | reply op r => exact .ofNetwork fun hnone => (Network.Coordinator.still hnone op).2.1 r
  | giveUpOperation op => exact .ofNetwork fun hnone => (Network.Coordinator.still hnone op).2.2.1
  | retire op => exact .ofNetwork fun hnone => (Network.Coordinator.still hnone op).2.2.2.1
  | deliver op => exact Services.wanes_deliver _ op
  | offer c => exact absurd rfl (he c)
  | signal => exact .ofQueue fun hempty => hempty
  | discard timer => exact .ofQueue fun hempty => Ready.Queue.size_discard hempty timer
  | tearDown => exact Services.wanes_tearDown _
  | stop =>
      rw [react, services_stop]
      exact .refl _
  | conclude =>
      rw [react, conclude]
      split
      · exact .refl _
      · exact Services.wanes_tearDown _
  | drop =>
      rw [react, drop]
      split
      · rw [← services_stop h]
        exact Services.wanes_endAll _
      · exact .refl _
  | elapse millis => exact .ofTimers fun hnone => hnone
  | submit | enter | giveUp | collect | cloneBridge | dropBridge => exact .refl _

end ScriptHost.Host
