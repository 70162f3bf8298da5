import ScriptHost.Proofs.Desk.Grants
import ScriptHost.Proofs.Host.Operations
import ScriptHost.Proofs.Host.Orphans
import ScriptHost.Proofs.Service.Teardown

/-!
# Numbers over a run

Only a request of guest code gives out a number; whatever else can happen to a host brings no timer,
no operation and no closure (`effect_or_fades`).  So between any two steps of any run all that is
registered and all that runs has a number that has been given out, and no number is given out twice:
one that has not been given out by the end of a run has not been used at any moment of it
(`unused_of_not_issued`).
-/

namespace ScriptHost

open Desk (Effect Fades Language OnlyIssued State isIssued sources)
open Ready (Callback Closures Target)

/-- An operation that is in flight has not ended. -/
theorem Network.Coordinator.inFlight_of_size_eq_zero {c : Network.Coordinator}
    (hnone : c.operations.size = 0) (id : Nat) : c.inFlight id = 0 := by
  refine Nat.eq_zero_of_not_pos fun hpos => ?_
  obtain ⟨op, o, hget, -⟩ := (c.inFlight_pos_iff id).1 hpos
  rw [(Table.size_eq_zero_iff _).1 hnone op] at hget
  cases hget

namespace Host

variable {F μ : Type} {l : Language F μ} {h : Host (State F μ)} {batch : List Callback} {t : Target}

/-! ## One event -/

section Steps

variable {s : Services} {closures : Closures F}

theorem fades_resolve (s : Services) (closures : Closures F) (t : Target) :
    Fades s closures s (closures.resolve t).2 where
  timers := rfl
  completions := Closures.nextCompletion_resolve _ _
  closure other hsome := by
    rw [Closures.contains_eq, Closures.flag?_resolve] at hsome
    split at hsome
    · cases hsome
    · rwa [Closures.contains_eq]
  live _ hlive := hlive
  flight _ := Nat.le_refl _

theorem fades_drain (s : Services) (closures : Closures F) :
    Fades s closures s closures.drain.2 where
  timers := rfl
  completions := rfl
  closure _ hsome := nomatch hsome
  live _ hlive := hlive
  flight _ := Nat.le_refl _

theorem fades_wakeTimer (s : Services) (closures : Closures F) (id : Nat) :
    Fades s closures (s.wakeTimer id) closures := by
  rw [Services.wakeTimer]
  split
  · refine ⟨Timers.nextId_fireAt _ _ _ _, rfl, fun _ hsome => hsome, fun other hlive => ?_,
      fun _ => Nat.le_refl _⟩
    have hkind := Timers.kind?_fireAt s.timers s.queue id s.now other
    rw [Timers.isLive_eq] at hlive ⊢
    change ((s.timers.fireAt s.queue id s.now).1.kind? other).isSome = true at hlive
    rw [hkind] at hlive
    split at hlive
    · cases hlive
    · exact hlive
  · exact .same rfl rfl

theorem fades_cancelTimer (s : Services) (closures : Closures F) (id : Nat) :
    Fades s closures (s.cancelTimer id).2 closures := by
  obtain ⟨htimers, -, -, hlive, hflight⟩ := Fades.clear s closures id
  exact ⟨htimers, rfl, fun _ hsome => hsome, hlive, hflight⟩

theorem fades_network (closures : Closures F) {network : Network.Coordinator}
    (hflight : ∀ id, network.inFlight id ≤ s.network.inFlight id) :
    Fades s closures { s with network } closures :=
  ⟨rfl, rfl, fun _ hsome => hsome, fun _ hlive => hlive, hflight⟩

/-- Everything that runs is ended. -/
theorem fades_end (s : Services) (closures : Closures F) (queue : Ready.Queue)
    {timers : Timers} {network : Network.Coordinator} (htimers : timers.live = .empty)
    (hnext : timers.nextId = s.timers.nextId) (hnetwork : network.operations.size = 0) :
    Fades s closures ⟨timers, queue, network⟩ closures where
  timers := hnext
  completions := rfl
  closure _ hsome := hsome
  live id hlive := by
    change timers.live.contains id = true at hlive
    rw [htimers] at hlive
    cases hlive
  flight id := by
    rw [Network.Coordinator.inFlight_of_size_eq_zero hnetwork id]
    exact Nat.zero_le _

theorem fades_tearDown (s : Services) (closures : Closures F) :
    Fades s closures s.tearDown.2 closures :=
  fades_end s closures _ rfl rfl (Network.Coordinator.size_abortAll s.network)

theorem fades_releases {e : Event} (he : e = .takeJob ∨ e = .disconnect) :
    Fades h.services h.guest.closures (react l.guest h e).services
      (react l.guest h e).guest.closures := by
  obtain ⟨hservices, hclosures⟩ := closures_of_releases l h he
  rw [hservices, hclosures]
  split
  · exact fades_drain _ _
  · exact .same rfl rfl

/-- Whatever happens, it is what one request does, or nothing new comes of it. -/
theorem effect_or_fades (hshaped : Shaped l batch h.interpreter) (e : Event) :
    (∃ request, Effect h.services h.guest.closures request (react l.guest h e).services
      (react l.guest h e).guest.closures) ∨
    Fades h.services h.guest.closures (react l.guest h e).services
      (react l.guest h e).guest.closures := by
  cases e with
  | work =>
      rw [react]
      rcases (moves hshaped).1 with ⟨-, hworld, -⟩ | ⟨-, -, hworld⟩ | ⟨hservices, hguest, -⟩ |
        ⟨hservices, hclosures, -⟩
      · obtain ⟨hservices, hguest⟩ := Prod.mk.inj hworld
        rw [hservices, hguest]
        exact .inl ⟨_, Desk.perform_effect _ _ _⟩
      · obtain ⟨hservices, hguest⟩ := Prod.mk.inj hworld
        rw [hservices, hguest]
        exact .inr (fades_resolve _ _ _)
      · rw [hservices, hguest]
        exact .inr (.same rfl rfl)
      · rw [hservices, hclosures]
        exact .inr (.same rfl rfl)
  | takeJob => exact .inr (fades_releases (.inl rfl))
  | disconnect => exact .inr (fades_releases (.inr rfl))
  | takeToken =>
      rw [react, takeToken?]
      split <;> exact .inr (.same rfl rfl)
  | wakeTimer id => exact .inr (fades_wakeTimer _ _ id)
  | cancelTimer id => exact .inr (fades_cancelTimer _ _ id)
  | begin op =>
      exact .inr (fades_network _ fun id => Nat.le_of_eq (h.services.network.inFlight_begin op id))
  | reply op r =>
      exact .inr (fades_network _ fun id => Nat.le_of_eq (h.services.network.inFlight_reply op r id))
  | giveUpOperation op =>
      exact .inr (fades_network _ fun id => Nat.le_of_eq (h.services.network.inFlight_giveUp op id))
  | retire op =>
      exact .inr (fades_network _ fun id => Nat.le_of_eq (h.services.network.inFlight_retire op id))
  | deliver op =>
      exact .inr ⟨rfl, rfl, fun _ hsome => hsome, fun _ hlive => hlive,
        h.services.network.inFlight_deliver_le h.services.queue op⟩
  | tearDown => exact .inr (fades_tearDown _ _)
  | stop =>
      rw [react, stop]
      split <;> exact .inr (.same rfl rfl)
  | conclude =>
      rw [react, conclude]
      split
      · exact .inr (.same rfl rfl)
      · exact .inr (fades_tearDown _ _)
  | drop =>
      rw [react, drop, stop]
      split
      · split <;>
          exact .inr (fades_end _ _ _ rfl rfl (Network.Coordinator.size_abortAll _))
      · exact .inr (.same rfl rfl)
  | elapse =>
      exact .inr ⟨rfl, rfl, fun _ hsome => hsome, fun _ hlive => hlive, fun _ => Nat.le_refl _⟩
  | submit | enter | giveUp | collect | offer | signal | discard | cloneBridge | dropBridge =>
      exact .inr (.same rfl rfl)

theorem issued_react (hshaped : Shaped l batch h.interpreter) (e : Event)
    (hissued : isIssued h.services h.guest.closures t = true) :
    isIssued (react l.guest h e).services (react l.guest h e).guest.closures t = true := by
  rcases effect_or_fades hshaped e with ⟨request, heffect⟩ | hfades
  · exact Desk.issued_effect heffect hissued
  · rw [hfades.issued, hissued]

theorem onlyIssued_react (honly : OnlyIssued h.services h.guest.closures)
    (hnumbered : h.services.network.Numbered) (hshaped : Shaped l batch h.interpreter) (e : Event) :
    OnlyIssued (react l.guest h e).services (react l.guest h e).guest.closures := by
  rcases effect_or_fades hshaped e with ⟨request, heffect⟩ | hfades
  · exact honly.effect hnumbered heffect
  · exact hfades.onlyIssued honly

end Steps

/-! ## A run -/

section Runs

theorem issued_run (events : List Event) : ∀ {h : Host (State F μ)} {batch : List Callback},
    Shaped l batch h.interpreter → isIssued h.services h.guest.closures t = true →
    isIssued (run l.guest h events).services (run l.guest h events).guest.closures t = true := by
  induction events with
  | nil => exact fun _ hissued => hissued
  | cons e events ih =>
      exact fun hshaped hissued => ih (hshaped.react e) (issued_react hshaped e hissued)

theorem onlyIssued_run (events : List Event) : ∀ {h : Host (State F μ)} {batch : List Callback}
    {n : Nat}, h.services.network.Balanced n → Shaped l batch h.interpreter →
    OnlyIssued h.services h.guest.closures →
    OnlyIssued (run l.guest h events).services (run l.guest h events).guest.closures := by
  induction events with
  | nil => exact fun _ _ honly => honly
  | cons e events ih =>
      exact fun hbalanced hshaped honly => ih (balanced_react hbalanced hshaped e)
        (hshaped.react e) (onlyIssued_react honly hbalanced.numbered hshaped e)

/-- At no moment of a run has there been a closure for a target, or a timer or an operation. -/
def Unused (g : Guest (State F μ)) (start : Host (State F μ)) (events : List Event) (t : Target) :
    Prop :=
  ∀ before after, events = before ++ after →
    (run g start before).guest.closures.contains t = false ∧
      sources (run g start before).services t = 0

variable (l : Language F μ) (memory : μ) (capacity : Nat)

theorem onlyIssued_of_fresh (events : List Event) :
    OnlyIssued (run l.guest (fresh capacity (State.start memory)) events).services
      (run l.guest (fresh capacity (State.start memory)) events).guest.closures :=
  onlyIssued_run events Network.Coordinator.balanced_empty (.between rfl) Desk.onlyIssued_start

theorem numbered_of_fresh (events : List Event) :
    (run l.guest (fresh capacity (State.start memory)) events).services.network.Numbered :=
  (balanced_run (l := l) events Network.Coordinator.balanced_empty (.between rfl)).numbered

/-- A number that has not been given out by the end of a run has not been used in it. -/
theorem unused_of_not_issued {events : List Event}
    (hnot : isIssued (run l.guest (fresh capacity (State.start memory)) events).services
      (run l.guest (fresh capacity (State.start memory)) events).guest.closures t = false) :
    Unused l.guest (fresh capacity (State.start memory)) events t := by
  rintro before after rfl
  -- had it been given out before, it would still count as given out
  refine onlyIssued_of_fresh l memory capacity before t (Bool.eq_false_iff.2 fun hissued => ?_)
  have hshaped : Shaped l [] (fresh capacity (State.start memory) : Host (State F μ)).interpreter :=
    .between rfl
  have hlater := issued_run after hshaped.run hissued
  rw [← run_append, hnot] at hlater
  cases hlater

end Runs

end Host
end ScriptHost
