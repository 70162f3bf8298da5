import ScriptHost.Guest.Command
import ScriptHost.Proofs.Host.Programs
import ScriptHost.Proofs.Host.Rest
import ScriptHost.Proofs.Ready.Producers

/-!
# No wake-up is lost

The interpreter takes jobs and wake-up tokens, and makes a pass over the queue after either.  In
between, any number of producers offer callbacks and signal, in two steps each, and entries are
discarded and cleared at any time.  While the interpreter has yet to begin the pass that it owes, it
need not be told of anything; from the beginning of the pass on, the queue is attended to
(`Produced.Attended`).  So when the interpreter has come to its choice and finds no token, whatever
is in the queue has been put in by calls that have yet to signal.

`Reaches` speaks of any guest, and of calls whose halves are apart.  That it leaves out nothing that a
host does is shown for guests that speak a language (`Reaches.run`).
-/

namespace ScriptHost

open Desk (Language State)
open Ready (Callback Produced Queue)

/-- Whether the interpreter comes to its next choice without beginning another pass. -/
def Interpreter.isPastDrain {σ : Type} : Interpreter σ → Bool
  | .selecting | .passing _ _ | .invoking _ _ _ => true
  | _ => false

namespace Host

variable {σ F μ : Type}

/-! ## Hosts and producers -/

/-- What a host and the producers of its queue may come to.  Any thread may touch the queue at any
time; and whatever else happens to the host, all that it does to the queue is to take the token or to
touch the queue some number of times. -/
inductive Reaches (g : Guest σ) (capacity : Nat) (guest : σ) : Host σ → Produced → Prop where
  | fresh : Reaches g capacity guest (fresh capacity guest) .empty
  | touch {h : Host σ} {p p' : Produced} (before : Reaches g capacity guest h p)
      (htouch : p.Touch p') : Reaches g capacity guest { h with services.queue := p'.queue } p'
  | takeToken {h : Host σ} {p : Produced} (before : Reaches g capacity guest h p) :
      Reaches g capacity guest (react g h .takeToken)
        { p with queue := (react g h .takeToken).services.queue }
  | event {h : Host σ} {p p' : Produced} {e : Event} (before : Reaches g capacity guest h p)
      (he : e ≠ .takeToken) (htouches : p.Touches p')
      (hqueue : p'.queue = (react g h e).services.queue) :
      Reaches g capacity guest (react g h e) p'

/-- What holds of a host and the producers of its queue at any time. -/
structure Attends (h : Host σ) (p : Produced) : Prop where
  queue : p.queue = h.services.queue
  sound : p.Sound
  attended : h.interpreter.isPastDrain = true → p.Attended

/-- The interpreter gets past the beginning of a pass only by emptying the queue. -/
theorem Works.isPastDrain {g : Guest σ} {h h' : Host σ}
    {finished : List (Guest.Request × Submission.Result)} (hworks : Works g h finished h')
    (hpast : h'.interpreter.isPastDrain = true) :
    h.interpreter.isPastDrain = true ∨ h'.services.queue.entries = [] := by
  cases hworks with
  -- the beginning of a pass is the one way in
  | drains => exact .inr rfl
  | waits => exact .inl hpast
  | selects hinterpreter | invokes hinterpreter | goes_on hinterpreter
  | returns _ hinterpreter => exact .inl (by rw [hinterpreter]; rfl)
  | executes | finishes | completes | succeeds | fails | answers | crashes => cases hpast

theorem isPastDrain_react {g : Guest σ} {h : Host σ} {e : Event}
    (hpast : (react g h e).interpreter.isPastDrain = true) :
    h.interpreter.isPastDrain = true ∨ (react g h e).services.queue.entries = [] := by
  rcases interpreter_react g h e with rfl | rfl | hsame | ⟨hselecting, -⟩
  · exact (works g h).isPastDrain hpast
  · rcases takeJob_cases g h with ⟨-, hsame⟩ | ⟨job, hselecting, -⟩
    · rw [react, hsame] at hpast
      exact .inl hpast
    · exact .inl (by rw [hselecting]; rfl)
  · rw [hsame] at hpast
    exact .inl hpast
  · exact .inl (by rw [hselecting]; rfl)

theorem Attends.touch {h : Host σ} {p p' : Produced} (ha : Attends h p) (htouch : p.Touch p') :
    Attends { h with services.queue := p'.queue } p' where
  queue := rfl
  sound := ha.sound.touch htouch
  attended hpast := (ha.attended hpast).touch htouch

/-- Who takes the token owes a pass. -/
theorem Attends.takeToken {g : Guest σ} {h : Host σ} {p : Produced} (ha : Attends h p) :
    Attends (react g h .takeToken) { p with queue := (react g h .takeToken).services.queue } := by
  obtain ⟨hqueue, hsound, hattended⟩ := ha
  simp only [react, takeToken?]
  split
  · rename_i queue hselecting htake
    have hentries : queue = { p.queue with token := false } := by
      rw [hqueue]
      exact (congrArg Prod.snd htake).symm
    subst hentries
    refine ⟨rfl, ⟨hsound.entries, hsound.distinct, hsound.made, hsound.calls, hsound.called⟩,
      fun hpast => ?_⟩
    -- the interpreter is to begin a pass, so nothing is claimed
    cases hpast
  · show Attends h { p with queue := h.services.queue }
    rw [← hqueue]
    exact ⟨hqueue, hsound, hattended⟩

theorem Attends.event {g : Guest σ} {h : Host σ} {p p' : Produced} {e : Event} (ha : Attends h p)
    (htouches : p.Touches p') (hqueue : p'.queue = (react g h e).services.queue) :
    Attends (react g h e) p' where
  queue := hqueue
  sound := ha.sound.touches htouches
  attended hpast := by
    -- either the claim held before, or the pass has just begun with an empty queue
    rcases isPastDrain_react hpast with hbefore | hempty
    · exact (ha.attended hbefore).touches htouches
    · exact (ha.sound.touches htouches).attended_of_empty (by rw [hqueue, hempty])

theorem Reaches.attends {g : Guest σ} {capacity : Nat} {guest : σ} {h : Host σ} {p : Produced}
    (hreaches : Reaches g capacity guest h p) : Attends h p := by
  induction hreaches with
  | fresh => exact ⟨rfl, Produced.sound_empty, fun _ => .inr fun _ hmem => by cases hmem⟩
  | touch _ htouch ih => exact ih.touch htouch
  | takeToken _ ih => exact ih.takeToken
  | event _ _ htouches hqueue ih => exact ih.event htouches hqueue

/-- At the choice of the interpreter, without a token. -/
theorem Attends.underway {h : Host σ} {p : Produced} (ha : Attends h p)
    (hselecting : h.interpreter = .selecting) (htoken : h.services.queue.token = false) :
    ∀ origin ∈ p.origins, origin.1 ∈ p.underway := by
  refine (ha.attended (by rw [hselecting]; rfl)).resolve_left fun htok => ?_
  rw [ha.queue, htoken] at htok
  cases htok

theorem Attends.entries_eq_nil {h : Host σ} {p : Produced} (ha : Attends h p)
    (hselecting : h.interpreter = .selecting) (htoken : h.services.queue.token = false)
    (hnone : p.underway = []) : h.services.queue.entries = [] := by
  have horigins : p.origins = [] := by
    refine List.eq_nil_iff_forall_not_mem.2 fun origin hmem => ?_
    have hcall := ha.underway hselecting htoken origin hmem
    rw [hnone] at hcall
    cases hcall
  rw [← ha.queue, ← ha.sound.entries, horigins, List.map_nil]

/-- **No wake-up is lost.**  When the interpreter is at its choice and there is no token, each entry of
the queue is from a call of its own that has put it in and has yet to signal.  So if no call is
between its halves the queue is empty. -/
theorem entries_of_unsignalled_calls (g : Guest σ) (capacity : Nat) (guest : σ) {h : Host σ}
    {p : Produced} (hreaches : Reaches g capacity guest h p)
    (hselecting : h.interpreter = .selecting) (htoken : h.services.queue.token = false) :
    p.origins.map Prod.snd = h.services.queue.entries ∧ (p.origins.map Prod.fst).Nodup ∧
      (∀ origin ∈ p.origins, origin.1 ∈ p.underway) ∧
      (p.underway = [] → h.services.queue.entries = []) := by
  have ha := hreaches.attends
  refine ⟨?_, ha.sound.distinct, ha.underway hselecting htoken, ha.entries_eq_nil hselecting htoken⟩
  rw [ha.sound.entries, ha.queue]

/-- A producer has been interrupted between the halves of its call: the interpreter has nothing to
take, and the entry waits. -/
theorem entry_of_interrupted_call :
    ∃ (h : Host Guest.Command.State) (p : Produced),
      Reaches Guest.Command.guest 1 .start h p ∧ h.interpreter = .selecting ∧
        h.services.queue.token = false ∧ h.services.queue.entries ≠ [] ∧
        ∀ origin ∈ p.origins, origin.1 ∈ p.underway := by
  have hreaches : Reaches Guest.Command.guest 1 .start _ (Produced.empty.offer (.firing 1)) :=
    .touch .fresh (.offer .empty (.firing 1))
  have hunderway := entries_of_unsignalled_calls Guest.Command.guest 1 .start hreaches rfl rfl
  exact ⟨_, _, hreaches, rfl, rfl, List.cons_ne_nil _ _, hunderway.2.2.1⟩

/-! ## Nothing is left out

A language guest touches the queue through the desk only, and a request of the desk drops the entry of
a timer at most.
-/

end Host

namespace Services

variable (s : Services)

theorem leads_discardAll (ids : List Nat) : ∀ q : Queue, q.Leads (Timers.discardAll q ids) := by
  induction ids with
  | nil => exact fun q => .refl q
  | cons id ids ih => exact fun q => (Queue.Leads.discard q id).trans (ih _)

theorem leads_wakeTimer (id : Nat) : s.queue.Leads (s.wakeTimer id).queue := by
  rw [wakeTimer]
  split
  · show s.queue.Leads (s.timers.fireAt s.queue id s.now).2
    rw [Timers.queue_fireAt]
    split
    · exact .enqueue _ _
    · exact .refl _
  · exact .refl _

theorem leads_deliver (op : Nat) : s.queue.Leads (s.deliver op).queue := by
  show s.queue.Leads (s.network.deliver s.queue op).2
  rw [Network.Coordinator.deliver]
  split
  · exact Queue.Leads.enqueue s.queue (.completion _ _)
  · exact .refl _

theorem leads_tearDown : s.queue.Leads s.tearDown.2.queue :=
  (leads_discardAll _ _).trans (.clear _)

theorem leads_effect {F : Type} {s s' : Services} {closures closures' : Ready.Closures F}
    {request : Desk.Ask F} (heffect : Desk.Effect s closures request s' closures') :
    s.queue.Leads s'.queue := by
  cases heffect with
  | clears id => exact .discard _ id
  | nothing | creates | starts | closes => exact .refl _

end Services

namespace Host

variable {l : Language F μ} {h : Host (State F μ)} {batch : List Callback}

theorem Shaped.leads_work (hshaped : Shaped l batch h.interpreter) :
    h.services.queue.Leads ((h.work? l.guest).getD h).services.queue := by
  rcases services_work hshaped with ⟨request, closures', heffect⟩ | hdrained | hsame
  · exact Services.leads_effect heffect
  · rw [hdrained]
    exact .clear _
  · rw [hsame]
    exact .refl _

/-- What an event does to the queue is made of whole calls, unless it is a half of one or takes the
token. -/
theorem Shaped.leads (hshaped : Shaped l batch h.interpreter) {e : Event} (htoken : e ≠ .takeToken)
    (hoffer : ∀ c, e ≠ .offer c) (hsignal : e ≠ .signal) :
    h.services.queue.Leads (Host.react l.guest h e).services.queue := by
  cases e with
  | takeToken => exact absurd rfl htoken
  | offer c => exact absurd rfl (hoffer c)
  | signal => exact absurd rfl hsignal
  | work => exact hshaped.leads_work
  | takeJob =>
      rw [Host.react, services_takeJob]
      exact .refl _
  | disconnect =>
      rw [Host.react, services_disconnect]
      exact .refl _
  | stop =>
      rw [Host.react, services_stop]
      exact .refl _
  | wakeTimer id => exact h.services.leads_wakeTimer id
  | cancelTimer id => exact .discard _ id
  | discard id => exact .discard _ id
  | deliver op => exact h.services.leads_deliver op
  | tearDown => exact h.services.leads_tearDown
  | conclude =>
      rw [Host.react, conclude]
      split
      · exact .refl _
      · exact h.services.leads_tearDown
  | drop =>
      rw [Host.react, drop]
      split
      · rw [← services_stop h]
        exact Services.leads_discardAll _ _
      · exact .refl _
  | submit | enter | giveUp | collect | elapse | begin | reply | giveUpOperation | retire
  | cloneBridge | dropBridge => exact .refl _

/-- Every event of a host is among what `Reaches` allows.  Only an offer by itself begins a call that
it does not end. -/
theorem Reaches.react {capacity : Nat} {guest : State F μ} {p : Produced}
    (hreaches : Reaches l.guest capacity guest h p) (hshaped : Shaped l batch h.interpreter)
    (e : Event) :
    ∃ p', Reaches l.guest capacity guest (Host.react l.guest h e) p' ∧
      ((∀ c, e ≠ .offer c) → p'.underway = p.underway) := by
  have hattends := hreaches.attends
  by_cases htoken : e = .takeToken
  · subst htoken
    exact ⟨_, hreaches.takeToken, fun _ => rfl⟩
  by_cases hsignal : e = .signal
  · -- a signal that belongs to no call
    subst hsignal
    refine ⟨p.signal p.queue.accepted,
      hreaches.event htoken (.single (.signal p _)) (congrArg Queue.signal hattends.queue),
      fun _ => List.erase_of_not_mem fun hmem => ?_⟩
    exact Nat.lt_irrefl _ (hattends.sound.called _ hmem)
  by_cases hoffer : ∃ c, e = .offer c
  · obtain ⟨c, rfl⟩ := hoffer
    refine ⟨p.offer c, hreaches.event htoken (.single (.offer p c)) ?_,
      fun hno => absurd rfl (hno c)⟩
    show (p.offer c).queue = (h.services.queue.offer c).2
    rw [← hattends.queue, Produced.offer]
    split <;> rfl
  · obtain ⟨p', htouches, hqueue, hunderway⟩ :=
      hshaped.leads htoken (fun c hc => hoffer ⟨c, hc⟩) hsignal p hattends.queue
    exact ⟨p', hreaches.event htoken htouches hqueue, fun _ => hunderway⟩

/-- Every run of a host is among what `Reaches` allows. -/
theorem Reaches.run {capacity : Nat} {guest : State F μ} (events : List Event) :
    ∀ {h : Host (State F μ)} {p : Produced} {batch : List Callback},
      Reaches l.guest capacity guest h p → Shaped l batch h.interpreter →
      ∃ p', Reaches l.guest capacity guest (Host.run l.guest h events) p' ∧
        ((∀ c, .offer c ∉ events) → p'.underway = p.underway) := by
  induction events with
  | nil => exact fun {h p _} hreaches _ => ⟨p, hreaches, fun _ => rfl⟩
  | cons e events ih =>
      intro h p batch hreaches hshaped
      obtain ⟨p₁, hreaches₁, hunder₁⟩ := hreaches.react hshaped e
      obtain ⟨p', hreaches', hunder'⟩ := ih hreaches₁ (hshaped.react e)
      refine ⟨p', hreaches', fun hno => ?_⟩
      rw [hunder' fun c hmem => hno c (List.mem_cons_of_mem _ hmem),
        hunder₁ fun c heq => hno c (heq ▸ List.mem_cons_self)]

/-- A host that is at its choice without a token has an empty queue, if all calls are whole. -/
theorem entries_of_whole_calls (l : Language F μ) (capacity : Nat) (guest : State F μ)
    {events : List Event} (hwhole : ∀ c, .offer c ∉ events)
    (hselecting : (Host.run l.guest (Host.fresh capacity guest) events).interpreter = .selecting)
    (htoken : (Host.run l.guest (Host.fresh capacity guest) events).services.queue.token = false) :
    (Host.run l.guest (Host.fresh capacity guest) events).services.queue.entries = [] := by
  have hfresh : Reaches l.guest capacity guest (Host.fresh capacity guest) .empty := .fresh
  have hshaped : Shaped l [] (Host.fresh capacity guest).interpreter := .between rfl
  obtain ⟨p, hreaches, hunderway⟩ := hfresh.run events hshaped
  exact hreaches.attends.entries_eq_nil hselecting htoken (hunderway hwhole)

end Host
end ScriptHost
