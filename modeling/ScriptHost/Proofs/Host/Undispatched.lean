import Mathlib.Data.List.Induction
import ScriptHost.Proofs.Host.Backlog
import ScriptHost.Proofs.Host.Torn

/-!
# Firings that have not been dispatched

A firing is coalesced if its timer waits in the queue.  A pass takes all entries at once, and works
through them one by one; behind a slow callback the firing of a timer may still be in the rest of the
batch when the queue already accepts the next one.

`Passages` counts what has become of the callbacks for one target over a run.  Each that was accepted
has been handed over, or lost, or dropped, or is undispatched (`Balanced`), and of a timer one at most
is undispatched in the queue and one in the batch.
-/

namespace ScriptHost

open Desk (Language State)
open Ready (Callback Queue Target occurrences)

/-! ## Entries -/

namespace Ready.Queue

theorem entries_offer (q : Queue) (c : Callback) :
    q.admits c.target = true ∧ (q.offer c).2.entries = q.entries ++ [c] ∨
      (q.offer c).2.entries = q.entries := by
  rw [offer]
  split
  · rename_i hadmits
    exact .inl ⟨hadmits, rfl⟩
  · exact .inr rfl

theorem entries_enqueue (q : Queue) (c : Callback) :
    (q.enqueue c).2.entries = (q.offer c).2.entries := by
  rw [enqueue]
  dsimp only
  split <;> rfl

theorem discard_sublist (q : Queue) (id : Nat) : (q.discard id).2.entries.Sublist q.entries := by
  rw [discard]
  split
  · exact List.filter_sublist
  · exact List.Sublist.refl _

theorem discardAll_sublist {ids : List Nat} :
    ∀ q : Queue, (Timers.discardAll q ids).entries.Sublist q.entries := by
  induction ids with
  | nil => exact fun q => List.Sublist.refl _
  | cons id ids ih => exact fun q => (ih _).trans (q.discard_sublist id)

/-- A timer that is admitted has no entry. -/
theorem Indexed.count_of_admits {q : Queue} (h : q.Indexed) {id : Nat}
    (hadmits : q.admits (.timer id) = true) : q.count (.timer id) = 0 := by
  rw [h id, if_neg]
  simpa [admits] using hadmits

end Ready.Queue

theorem Services.entries_wakeTimer (s : Services) (id : Nat) :
    s.queue.admits (.timer id) = true ∧
        (s.wakeTimer id).queue.entries = s.queue.entries ++ [.firing id] ∨
      (s.wakeTimer id).queue.entries = s.queue.entries := by
  rw [wakeTimer]
  split
  · show _ ∧ (s.timers.fireAt s.queue id s.now).2.entries = _ ∨
      (s.timers.fireAt s.queue id s.now).2.entries = _
    rw [Timers.queue_fireAt]
    split
    · rw [Queue.entries_enqueue]
      exact s.queue.entries_offer (.firing id)
    · exact .inr rfl
  · exact .inr rfl

theorem Services.entries_deliver (s : Services) (op : Nat) :
    (∃ c, s.queue.admits c.target = true ∧ (s.deliver op).queue.entries = s.queue.entries ++ [c]) ∨
      (s.deliver op).queue.entries = s.queue.entries := by
  show (∃ c, _ ∧ (s.network.deliver s.queue op).2.entries = _) ∨
    (s.network.deliver s.queue op).2.entries = _
  rw [Network.Coordinator.deliver]
  split
  · dsimp only
    rw [Queue.entries_enqueue]
    exact (s.queue.entries_offer _).imp_left fun hadmitted => ⟨_, hadmitted⟩
  · exact .inr rfl

theorem Desk.Effect.entries_sublist {F : Type} {s s' : Services}
    {closures closures' : Ready.Closures F} {request : Desk.Ask F}
    (heffect : Desk.Effect s closures request s' closures') :
    s'.queue.entries.Sublist s.queue.entries := by
  cases heffect with
  | clears id => exact s.queue.discard_sublist id
  | nothing | creates | starts | closes => exact List.Sublist.refl _

namespace Host

variable {F μ : Type} {l : Language F μ} {h : Host (State F μ)} {batch : List Callback}

/-- What an event can do to the entries of the queue: one callback is admitted, while the interpreter
does nothing, or entries go. -/
theorem entries_react (hshaped : Shaped l batch h.interpreter) (e : Event) :
    (∃ c, h.services.queue.admits c.target = true ∧
        (react l.guest h e).services.queue.entries = h.services.queue.entries ++ [c] ∧
        (react l.guest h e).interpreter = h.interpreter) ∨
      (react l.guest h e).services.queue.entries.Sublist h.services.queue.entries := by
  cases e with
  | wakeTimer id =>
      rcases h.services.entries_wakeTimer id with ⟨hadmits, hentries⟩ | hsame
      · exact .inl ⟨_, hadmits, hentries, rfl⟩
      · exact .inr (by rw [react, hsame])
  | deliver op =>
      rcases h.services.entries_deliver op with ⟨c, hadmits, hentries⟩ | hsame
      · exact .inl ⟨c, hadmits, hentries, rfl⟩
      · exact .inr (by rw [react, hsame])
  | offer c =>
      rcases h.services.queue.entries_offer c with ⟨hadmits, hentries⟩ | hsame
      · exact .inl ⟨c, hadmits, hentries, rfl⟩
      · exact .inr (by rw [react, hsame])
  | work =>
      refine .inr ?_
      rw [react]
      rcases services_work hshaped with ⟨request, closures', heffect⟩ | hdrained | hsame
      · exact heffect.entries_sublist
      · rw [hdrained]
        exact List.nil_sublist _
      · rw [hsame]
  | takeJob =>
      rw [react, services_takeJob]
      exact .inr (List.Sublist.refl _)
  | disconnect =>
      rw [react, services_disconnect]
      exact .inr (List.Sublist.refl _)
  | takeToken =>
      refine .inr ?_
      rw [react, takeToken?]
      split
      · rename_i htoken
        rw [← (Prod.mk.inj htoken).2]
        exact List.Sublist.refl _
      · exact List.Sublist.refl _
  | stop =>
      rw [react, services_stop]
      exact .inr (List.Sublist.refl _)
  | cancelTimer id => exact .inr (h.services.queue.discard_sublist id)
  | discard id => exact .inr (h.services.queue.discard_sublist id)
  | tearDown => exact .inr (List.nil_sublist _)
  | conclude =>
      refine .inr ?_
      rw [react, conclude]
      split
      · exact List.Sublist.refl _
      · exact List.nil_sublist _
  | drop =>
      refine .inr ?_
      rw [react, drop]
      split
      · show (Timers.discardAll h.stop.services.queue _).entries.Sublist _
        rw [services_stop]
        exact Queue.discardAll_sublist _
      · exact List.Sublist.refl _
  | submit | enter | giveUp | collect | elapse | begin | reply | giveUpOperation | retire | signal
  | cloneBridge | dropBridge => exact .inr (List.Sublist.refl _)

/-! ## What becomes of a callback -/

variable {σ : Type}

/-- The callbacks that the queue accepts in an event. -/
def accepts (g : Guest σ) (h : Host σ) (e : Event) : List Callback :=
  (react g h e).services.queue.entries.drop h.services.queue.entries.length

/-- The callbacks of a batch that are lost because one of it has panicked. -/
def loses (g : Guest σ) (h : Host σ) (e : Event) : List Callback :=
  if isCrashed (react g h e).interpreter then remaining h.interpreter else []

/-- How many entries for a target leave the queue without a pass that takes them. -/
def discards (g : Guest σ) (h : Host σ) (e : Event) (t : Target) : Nat :=
  if h.beginsPass e then 0
  else h.services.queue.count t - (react g h e).services.queue.count t

/-- What has become of the callbacks for a target that the queue has accepted. -/
structure Passages where
  accepted : Nat
  /-- Handed to the guest, whatever it has made of them. -/
  handed : Nat
  lost : Nat
  /-- Discarded or cleared while they waited. -/
  dropped : Nat

/-- Nothing has been accepted. -/
def Passages.none : Passages := ⟨0, 0, 0, 0⟩

/-- What is over: the callbacks that have been handed over, lost or dropped. -/
def Passages.settled (p : Passages) : Nat := p.handed + p.lost + p.dropped

/-- The passages after one more event. -/
def passes (g : Guest σ) (t : Target) (p : Passages) (h : Host σ) (e : Event) : Passages where
  accepted := p.accepted + occurrences (accepts g h e) t
  handed := p.handed + occurrences (handed (h.crossings e)) t
  lost := p.lost + occurrences (loses g h e) t
  dropped := p.dropped + discards g h e t

/-- The passages of a run. -/
def passages (g : Guest σ) (t : Target) : Host σ → Passages → List Event → Passages
  | _, p, [] => p
  | h, p, e :: events => passages g t (react g h e) (passes g t p h e) events

/-- How many callbacks for a target have not been handed to the guest: those in the queue and those
in the rest of the batch. -/
def undispatched (h : Host σ) (t : Target) : Nat :=
  h.services.queue.count t + occurrences (remaining h.interpreter) t

/-! ## One event -/

/-- A pass takes the whole queue, and nothing is left of the pass before. -/
theorem beginsPass_cases (g : Guest σ) (h : Host σ) (e : Event) :
    h.beginsPass e = true ∧ h.gathers e = h.services.queue.entries ∧
        (react g h e).services.queue.entries = [] ∧ remaining h.interpreter = [] ∨
      h.beginsPass e = false ∧ h.gathers e = [] := by
  by_cases hwork : e = .work
  · subst hwork
    cases hinterpreter : h.interpreter with
    | draining =>
        refine .inl ⟨?_, ?_, ?_, rfl⟩
        · simp only [beginsPass, hinterpreter]
        · simp only [gathers, hinterpreter]
          rfl
        · simp only [react, work?, hinterpreter]
          rfl
    | selecting | executing | executed | completed | counted | passing | invoking | stopped
    | crashed => exact .inr ⟨by simp only [beginsPass, hinterpreter], by simp only [gathers, hinterpreter]⟩
  · refine .inr ⟨?_, gathers_eq_nil h hwork⟩
    unfold beginsPass
    split
    · exact absurd rfl hwork
    · rfl

/-- What an event does to the callbacks of the batch that is under way. -/
theorem occurrences_remaining_react (g : Guest σ) (h : Host σ) (e : Event) (t : Target) :
    occurrences (remaining (react g h e).interpreter) t +
        occurrences (handed (h.crossings e)) t + occurrences (loses g h e) t =
      occurrences (remaining h.interpreter) t + occurrences (h.gathers e) t := by
  have hcrosses := crosses g h e
  cases hcrashed : isCrashed (react g h e).interpreter with
  | false =>
      have hflow := congrArg (occurrences · t) (hcrosses.remaining hcrashed)
      simp only [Ready.occurrences_append] at hflow
      rw [loses, hcrashed, if_neg Bool.false_ne_true, Ready.occurrences_nil]
      omega
  | true =>
      rw [loses, hcrashed, if_pos rfl]
      generalize h.interpreter = i at hcrosses ⊢
      generalize (react g h e).interpreter = j at hcrosses hcrashed ⊢
      generalize h.gathers e = new at hcrosses ⊢
      generalize h.crossings e = log at hcrosses ⊢
      cases hcrosses with
      | same =>
          cases i with
          | crashed => rfl
          | selecting | executing | executed | completed | counted | draining | passing | invoking
          | stopped => cases hcrashed
      | panics => simp [handed, remaining]
      | moves _ hj => simp [isOutside, hcrashed] at hj
      | gathers | begins | executes | finishes | hands | goes_on | returns => cases hcrashed

/-- What an event does to the entries for a target. -/
theorem count_react (hshaped : Shaped l batch h.interpreter) (e : Event) (t : Target) :
    (react l.guest h e).services.queue.count t + occurrences (h.gathers e) t +
        discards l.guest h e t =
      h.services.queue.count t + occurrences (accepts l.guest h e) t := by
  rcases beginsPass_cases l.guest h e with ⟨hpass, hgathers, hempty, -⟩ | ⟨hpass, hgathers⟩
  · rw [discards, hpass, if_pos rfl, accepts, hgathers, Queue.count, hempty, List.drop_nil]
    simp [Queue.count]
  · rw [discards, hpass, if_neg Bool.false_ne_true, hgathers, Ready.occurrences_nil, accepts]
    rcases entries_react hshaped e with ⟨c, -, hentries, -⟩ | hsublist
    · rw [hentries, List.drop_left, Queue.count, Queue.count, hentries, Ready.occurrences_append]
      omega
    · have hle : (react l.guest h e).services.queue.count t ≤ h.services.queue.count t :=
        hsublist.countP_le
      rw [List.drop_eq_nil_of_le hsublist.length_le, Ready.occurrences_nil]
      omega

/-- A firing is accepted only if its timer has no entry, and the batch stays as it is. -/
theorem accepts_firing (hshaped : Shaped l batch h.interpreter)
    (hindexed : h.services.queue.Indexed) {e : Event} {id : Nat}
    (haccepts : ∃ c ∈ accepts l.guest h e, c.target = .timer id) :
    h.services.queue.count (.timer id) = 0 ∧
      (react l.guest h e).services.queue.count (.timer id) = 1 ∧
      (react l.guest h e).interpreter = h.interpreter := by
  obtain ⟨c, hin, htarget⟩ := haccepts
  rw [accepts] at hin
  rcases entries_react hshaped e with ⟨own, hadmits, hentries, hsame⟩ | hsublist
  · rw [hentries, List.drop_left, List.mem_singleton] at hin
    subst hin
    have hnone := hindexed.count_of_admits (htarget ▸ hadmits)
    refine ⟨hnone, ?_, hsame⟩
    rw [Queue.count, hentries, Ready.occurrences_append, Ready.occurrences_cons, htarget, if_pos rfl]
    rw [Queue.count] at hnone
    rw [hnone]
    rfl
  · rw [List.drop_eq_nil_of_le hsublist.length_le] at hin
    cases hin

/-- Without an acceptance no further callback for a target becomes undispatched. -/
theorem undispatched_react_le (hshaped : Shaped l batch h.interpreter) {e : Event}
    {t : Target} (haccepts : ¬∃ c ∈ accepts l.guest h e, c.target = t) :
    (react l.guest h e).undispatched t ≤ h.undispatched t := by
  have hqueue := count_react hshaped e t
  have hbatch := occurrences_remaining_react l.guest h e t
  rw [← Ready.occurrences_pos_iff] at haccepts
  rw [undispatched, undispatched]
  omega

/-! ## A run -/

/-- What is known of the firings of a timer between any two events. -/
structure Balanced (h : Host (State F μ)) (id : Nat) (p : Passages) : Prop where
  indexed : h.services.queue.Indexed
  once : occurrences (remaining h.interpreter) (.timer id) ≤ 1
  balance : p.accepted = p.settled + h.undispatched (.timer id)

variable {id : Nat} {p : Passages}

theorem balanced_fresh (capacity : Nat) (memory : μ) (id : Nat) :
    Balanced (F := F) (fresh capacity (State.start memory)) id .none where
  indexed := Queue.indexed_empty
  once := Nat.zero_le _
  balance := rfl

namespace Balanced

theorem react (hb : Balanced h id p) (hshaped : Shaped l batch h.interpreter) (e : Event) :
    Balanced (Host.react l.guest h e) id (passes l.guest (.timer id) p h e) where
  indexed := indexed_react hb.indexed hshaped e
  once := by
    have hflow := occurrences_remaining_react l.guest h e (.timer id)
    have hone := hb.indexed.count_timer_le id
    have honce := hb.once
    rcases beginsPass_cases l.guest h e with ⟨-, hgathers, -, hrest⟩ | ⟨-, hgathers⟩
    · rw [hgathers, hrest, Ready.occurrences_nil] at hflow
      rw [Queue.count] at hone
      omega
    · rw [hgathers, Ready.occurrences_nil] at hflow
      omega
  balance := by
    have hqueue := count_react hshaped e (.timer id)
    have hbatch := occurrences_remaining_react l.guest h e (.timer id)
    have hbalance := hb.balance
    simp only [Passages.settled, undispatched, passes] at hbalance ⊢
    omega

theorem run {events : List Event} :
    ∀ {h : Host (State F μ)} {batch : List Callback} {p : Passages}, Balanced h id p →
      Shaped l batch h.interpreter →
      Balanced (Host.run l.guest h events) id (passages l.guest (.timer id) h p events) := by
  induction events with
  | nil => exact fun hb _ => hb
  | cons e events ih => exact fun hb hshaped => ih (hb.react hshaped e) (hshaped.react e)

/-- When a firing is accepted, every earlier one is over but for one in the rest of the batch. -/
theorem accepts (hb : Balanced h id p) (hshaped : Shaped l batch h.interpreter) {e : Event}
    (haccepts : ∃ c ∈ accepts l.guest h e, c.target = .timer id) :
    p.accepted = p.settled + occurrences (remaining h.interpreter) (.timer id) ∧
      (Host.react l.guest h e).undispatched (.timer id) =
        1 + occurrences (remaining h.interpreter) (.timer id) := by
  obtain ⟨hnone, hone, hsame⟩ := accepts_firing hshaped hb.indexed haccepts
  have hbalance := hb.balance
  rw [undispatched, hnone] at hbalance
  rw [undispatched, hone, hsame]
  exact ⟨by omega, rfl⟩

end Balanced

/-- **A firing is accepted as soon as the one before has been taken, be it dispatched or not.**

Every firing of a timer that the queue has accepted has been handed to the guest, or lost with a
panic, or dropped while it waited, or is undispatched: one at most in the queue, and one at most in
the rest of the batch of the pass that is under way.  When the queue accepts a firing, all earlier ones
are over but for the one in the rest of the batch, if there is one; then two are undispatched.

So one at most is undispatched at every moment of a run exactly if no firing is accepted while the
rest of a batch has one of the same timer. -/
theorem one_firing_undispatched_iff (l : Language F μ) (capacity : Nat) (memory : μ) (id : Nat)
    (events : List Event) :
    let t := Target.timer id
    let start : Host (State F μ) := fresh capacity (State.start memory)
    let h := Host.run l.guest start events
    let p := passages l.guest t start .none events
    let rest := fun h : Host (State F μ) => occurrences (remaining h.interpreter) t
    p.accepted = p.handed + p.lost + p.dropped + h.undispatched t ∧
    h.services.queue.count t ≤ 1 ∧ rest h ≤ 1 ∧
    (∀ e, (∃ c ∈ accepts l.guest h e, c.target = t) →
      p.accepted = p.handed + p.lost + p.dropped + rest h ∧
        (Host.react l.guest h e).undispatched t = 1 + rest h) ∧
    ((∀ earlier, earlier <+: events → (Host.run l.guest start earlier).undispatched t ≤ 1) ↔
      ∀ earlier e, earlier ++ [e] <+: events →
        (∃ c ∈ accepts l.guest (Host.run l.guest start earlier) e, c.target = t) →
          rest (Host.run l.guest start earlier) = 0) := by
  intro t start h p rest
  have hshaped (events : List Event) :
      ∃ batch, Shaped l batch (Host.run l.guest start events).interpreter :=
    ⟨_, Shaped.run (.between rfl)⟩
  have hb (events : List Event) :
      Balanced (Host.run l.guest start events) id (passages l.guest t start .none events) :=
    (balanced_fresh capacity memory id).run (.between rfl)
  have hnext (earlier : List Event) (e : Event) : Host.run l.guest start (earlier ++ [e]) =
      Host.react l.guest (Host.run l.guest start earlier) e := by
    rw [Host.run, List.foldl_append]
    rfl
  obtain ⟨batch, hend⟩ := hshaped events
  refine ⟨(hb events).balance, (hb events).indexed.count_timer_le id, (hb events).once,
    fun e haccepts => (hb events).accepts hend haccepts, fun hone earlier e hprefix haccepts => ?_,
    fun hnone earlier hprefix => ?_⟩
  · obtain ⟨batch, hthen⟩ := hshaped earlier
    have hafter : 1 + rest (Host.run l.guest start earlier) ≤ 1 := by
      rw [← ((hb earlier).accepts hthen haccepts).2, ← hnext]
      exact hone _ hprefix
    omega
  · induction earlier using List.reverseRecOn with
    | nil => exact Nat.zero_le _
    | append_singleton earlier e ih =>
        obtain ⟨batch, hthen⟩ := hshaped earlier
        rw [hnext]
        by_cases haccepts : ∃ c ∈ accepts l.guest (Host.run l.guest start earlier) e, c.target = t
        · have hempty := hnone earlier e hprefix haccepts
          rw [((hb earlier).accepts hthen haccepts).2]
          show 1 + rest _ ≤ 1
          omega
        · exact Nat.le_trans (undispatched_react_le hthen haccepts)
            (ih ((List.prefix_append _ _).trans hprefix))

/-- A language whose programs ask for a timer that fires once and for one that repeats. -/
def chimes : Language Unit Unit where
  execute _ _ :=
    .ask (.setTimer () none false) fun _ =>
      .ask (.setTimer () none true) fun _ => .finish (.returned .null) ()
  call _ _ _ := .finish (.returned .null) ()

/-- Source has been submitted and executed, and both timers have fired. -/
def chimed : List Event :=
  [.submit false "" "=submit" 1000, .enter 1, .takeJob, .work, .work, .work, .work, .work, .work,
    .work, .work, .work, .work, .elapse 1, .wakeTimer 1, .wakeTimer 2, .takeToken]

/-- A pass has handed over all that it has taken when the repeating timer fires again: its first firing
is over. -/
theorem first_chime_is_over :
    let h := Host.run chimes.guest (fresh 1 (State.start ()))
      (chimed ++ [.work, .work, .work, .work, .work, .work, .work, .work, .work, .work, .elapse 1])
    (∃ c ∈ accepts chimes.guest h (.wakeTimer 2), c.target = .timer 2) ∧
      (Host.react chimes.guest h (.wakeTimer 2)).undispatched (.timer 2) = 1 := by
  intro h
  have haccepts : ∃ c ∈ accepts chimes.guest h (.wakeTimer 2), c.target = .timer 2 :=
    ⟨.firing 2, List.mem_cons_self, rfl⟩
  have hrest : occurrences (remaining h.interpreter) (.timer 2) = 0 := by decide
  have hafter := ((one_firing_undispatched_iff chimes 1 () 2 _).2.2.2.1 (.wakeTimer 2) haccepts).2
  exact ⟨haccepts, hafter.trans (congrArg (1 + ·) hrest)⟩

/-- A pass has taken the firings of both timers and handed over the first one.  While its callback
runs, the repeating timer fires again and is accepted: two firings of it are undispatched. -/
theorem two_chimes_undispatched :
    (Host.run chimes.guest (fresh 1 (State.start ()))
      (chimed ++ [.work, .work, .elapse 1, .wakeTimer 2])).undispatched (.timer 2) = 2 := by
  decide

end Host
end ScriptHost
