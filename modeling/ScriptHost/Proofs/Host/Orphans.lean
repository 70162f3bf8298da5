import ScriptHost.Proofs.Desk.Orphans
import ScriptHost.Proofs.Host.Clearing
import ScriptHost.Proofs.Host.Rest
import ScriptHost.Proofs.Host.Visits

/-!
# Orphaned timers

When a host is torn down, its timers are cancelled at once, and the guest drops its closures when the
interpreter comes to the job that tells it to.  In between submitted source may run, and callbacks
that had been taken out of the queue before.  A timer that they create loses its closure with the
others (`orphaned`).

A live timer has its closure exactly if it is not such an orphan.  An orphaned interval goes on firing
and is counted as live, while its firings are skipped, until something ends it.
-/

namespace ScriptHost

/-- Whether an event can end a timer without asking the guest. -/
def Event.mayEnd (id : Nat) : Event → Bool
  | .cancelTimer other => other = id
  | .tearDown | .conclude | .drop => true
  | _ => false

namespace Host

open Desk (Ask Covers Language State)
open Ready (Callback Closures)

variable {σ F μ : Type}

/-- Whether the guest drops all its closures. -/
def releases (h : Host σ) : Event → Bool
  | .takeJob =>
      match h.takes .takeJob with
      | [.releaseClosures] | [.stop] => true
      | _ => false
  | .disconnect =>
      match h.interpreter with
      | .selecting => h.isDisconnected
      | _ => false
  | _ => false

/-- The timers that are live when the guest drops all its closures. -/
def orphans (h : Host σ) (e : Event) : List Nat :=
  if h.releases e then h.services.timers.live.keys else []

/-- The timers that have lost their closures in a run because the guest has dropped all of them. -/
def orphaned (g : Guest σ) : Host σ → List Event → List Nat
  | _, [] => []
  | h, e :: events => h.orphans e ++ orphaned g (react g h e) events

/-! ## One event -/

section Steps

variable {l : Language F μ} {h : Host (State F μ)} {batch : List Callback} {lost : List Nat}

/-- Taking a job and finding that none can come leave the services alone, and drop all closures or
none. -/
theorem closures_of_releases (l : Language F μ) (h : Host (State F μ)) {e : Event}
    (he : e = .takeJob ∨ e = .disconnect) :
    (react l.guest h e).services = h.services ∧
      (react l.guest h e).guest.closures =
        if h.releases e then h.guest.closures.drain.2 else h.guest.closures := by
  rcases he with rfl | rfl
  · refine ⟨services_takeJob l.guest h, ?_⟩
    obtain ⟨services, guest, bridge, ⟨jobs, capacity, attended, hpos⟩, interpreter, held, bridges⟩ := h
    cases interpreter with
    | selecting =>
        cases jobs with
        | nil => rfl
        | cons job rest =>
            cases job with
            | execute | releaseClosures | stop => rfl
    | executing | executed | completed | counted | draining | passing | invoking | stopped
    | crashed => rfl
  · refine ⟨services_disconnect l.guest h, ?_⟩
    obtain ⟨services, guest, bridge, channel, interpreter, held, bridges⟩ := h
    cases interpreter with
    | selecting =>
        simp only [react, disconnect?]
        split
        · rename_i hdisconnected
          exact (if_pos hdisconnected).symm
        · rename_i hconnected
          exact (if_neg hconnected).symm
    | executing | executed | completed | counted | draining | passing | invoking | stopped
    | crashed => rfl

theorem covers_work (hcovers : Covers lost h.services h.guest.closures batch)
    (hshaped : Shaped l batch h.interpreter) :
    Covers lost ((h.work? l.guest).getD h).services ((h.work? l.guest).getD h).guest.closures
      (drainedAfter h batch .work) := by
  rcases (moves hshaped).1 with ⟨-, hworld, hbatch⟩ | ⟨-, hbatch, hworld⟩ |
    ⟨hservices, hguest, hbatch⟩ | ⟨hservices, hclosures, hbatch⟩
  · obtain ⟨hservices, hguest⟩ := Prod.mk.inj hworld
    rw [hservices, hguest, hbatch]
    exact hcovers.effect (Desk.perform_effect _ _ _)
  · obtain ⟨hservices, hguest⟩ := Prod.mk.inj hworld
    rw [hbatch] at hcovers
    rw [hservices, hguest]
    exact hcovers.resolve
  · rw [hservices, hguest, hbatch]
    exact hcovers.drain
  · rw [hservices, hclosures, hbatch]
    exact hcovers

theorem covers_react (hcovers : Covers lost h.services h.guest.closures batch)
    (hshaped : Shaped l batch h.interpreter) {e : Event} (he : ∀ c, e ≠ .offer c) :
    Covers (lost ++ h.orphans e) (react l.guest h e).services (react l.guest h e).guest.closures
      (drainedAfter h batch e) := by
  by_cases hwork : e = .work
  · subst hwork
    show Covers (lost ++ []) _ _ _
    rw [List.append_nil]
    exact covers_work hcovers hshaped
  rw [drainedAfter_of_ne hwork]
  by_cases hjob : e = .takeJob ∨ e = .disconnect
  · obtain ⟨hservices, hclosures⟩ := closures_of_releases l h hjob
    rw [hservices, hclosures, orphans]
    split
    · exact hcovers.release
    · rw [List.append_nil]
      exact hcovers
  · have hreleases : h.releases e = false := by
      cases e with
      | takeJob => exact absurd (.inl rfl) hjob
      | disconnect => exact absurd (.inr rfl) hjob
      | _ => rfl
    have hnone : h.orphans e = [] := by
      rw [orphans, hreleases]
      rfl
    rw [hnone, List.append_nil]
    cases e with
    | work => exact absurd rfl hwork
    | takeJob => exact absurd (.inl rfl) hjob
    | disconnect => exact absurd (.inr rfl) hjob
    | offer c => exact absurd rfl (he c)
    | takeToken =>
        simp only [react, takeToken?]
        split
        · rename_i htoken
          rw [← (Prod.mk.inj htoken).2]
          exact ⟨hcovers.indexed, hcovers.covered⟩
        · exact hcovers
    | wakeTimer id => exact hcovers.wakeTimer id
    | cancelTimer id => exact hcovers.cancelTimer id
    | discard id => exact hcovers.discard id
    | deliver op => exact hcovers.deliver op
    | begin | reply | giveUpOperation | retire => exact hcovers.network _
    | signal => exact ⟨hcovers.indexed, hcovers.covered⟩
    | elapse => exact ⟨hcovers.indexed, hcovers.covered⟩
    | tearDown => exact hcovers.tearDown
    | stop =>
        simp only [react, stop]
        split <;> exact hcovers
    | conclude =>
        simp only [react, conclude]
        split
        · exact hcovers
        · exact hcovers.tearDown
    | drop =>
        simp only [react, drop, stop]
        split
        · split <;> exact hcovers.endAll _
        · exact hcovers
    | submit | enter | giveUp | collect | cloneBridge | dropBridge => exact hcovers

/-- What a request does to a timer that there is already: nothing, unless it clears the timer. -/
theorem kind?_effect {s s' : Services} {closures closures' : Closures F} {request : Ask F}
    (heffect : Desk.Effect s closures request s' closures') :
    s.timers.nextId ≤ s'.timers.nextId ∧ ∀ id, s'.timers.kind? id = s.timers.kind? id ∨
      s.timers.nextId ≤ id ∨ s'.timers.kind? id = none ∧ request = .clearTimer (some id) := by
  cases heffect with
  | nothing | starts | closes => exact ⟨Nat.le_refl _, fun _ => .inl rfl⟩
  | @creates delay millis new repeating timers closure hcreate =>
      obtain ⟨rfl, hnext, hkind⟩ := Timers.create_eq_ok hcreate
      refine ⟨?_, fun id => ?_⟩
      · show s.timers.nextId ≤ timers.nextId
        omega
      · by_cases hid : id = s.timers.nextId
        · exact .inr (.inl (Nat.le_of_eq hid.symm))
        · exact .inl ((hkind id).trans (if_neg hid))
  | clears other =>
      refine ⟨Nat.le_refl _, fun id => ?_⟩
      have hkind := Timers.kind?_remove s.timers other id
      by_cases hid : id = other
      · rw [if_pos hid] at hkind
        exact .inr (.inr ⟨hkind, by rw [hid]⟩)
      · rw [if_neg hid] at hkind
        exact .inl hkind

/-- What the timers can have become by an event.  New timers take new numbers; a timer that there is
stays as it is, or ends: because it has fired, or by other hands, or because guest code clears it. -/
def Follows (h : Host (State F μ)) (e : Event) (t : Timers) : Prop :=
  h.services.timers.nextId ≤ t.nextId ∧
    ∀ id, t.kind? id = h.services.timers.kind? id ∨ h.services.timers.nextId ≤ id ∨
      t.kind? id = none ∧
        (h.services.timers.kind? id = some false ∨ e.mayEnd id = true ∨
          e = .work ∧ ∃ next, Continues (.ask (.clearTimer (some id)) next) h.interpreter)

theorem kind?_react (hshaped : Shaped l batch h.interpreter) (e : Event) :
    Follows h e (react l.guest h e).services.timers := by
  have hsame : ∀ {t : Timers}, t = h.services.timers → Follows h e t := by
    rintro t rfl
    exact ⟨Nat.le_refl _, fun _ => .inl rfl⟩
  cases e with
  | work =>
      rcases (moves hshaped).1 with ⟨hcontinues, hworld, -⟩ | ⟨-, -, hworld⟩ | ⟨hservices, -, -⟩ |
        ⟨hservices, -, -⟩
      · obtain ⟨hnext, hkind⟩ := kind?_effect (Desk.perform_effect _ h.services h.guest.closures)
        rw [react, (Prod.mk.inj hworld).1]
        refine ⟨hnext, fun id => (hkind id).imp_right fun hnew => hnew.imp_right ?_⟩
        rintro ⟨hnone, rfl⟩
        exact ⟨hnone, .inr (.inr ⟨rfl, _, hcontinues⟩)⟩
      · exact hsame (congrArg Services.timers (Prod.mk.inj hworld).1)
      · exact hsame ((congrArg Services.timers hservices).trans rfl)
      · exact hsame (congrArg Services.timers hservices)
  | takeJob => exact hsame (congrArg Services.timers (services_takeJob l.guest h))
  | disconnect => exact hsame (congrArg Services.timers (services_disconnect l.guest h))
  | takeToken =>
      simp only [react, takeToken?]
      split <;> exact hsame rfl
  | wakeTimer other =>
      rw [react, Services.wakeTimer]
      split
      · refine ⟨Nat.le_of_eq (Timers.nextId_fireAt _ _ _ _).symm, fun id => ?_⟩
        have hkind := Timers.kind?_fireAt h.services.timers h.services.queue other h.services.now id
        by_cases hfires : id = other ∧ h.services.timers.kind? other = some false
        · rw [if_pos hfires] at hkind
          exact .inr (.inr ⟨hkind, .inl (hfires.1 ▸ hfires.2)⟩)
        · rw [if_neg hfires] at hkind
          exact .inl hkind
      · exact hsame rfl
  | cancelTimer other =>
      refine ⟨Nat.le_refl _, fun id => ?_⟩
      have hkind := Timers.kind?_remove h.services.timers other id
      by_cases hid : id = other
      · rw [if_pos hid] at hkind
        exact .inr (.inr ⟨hkind, .inr (.inl (decide_eq_true hid.symm))⟩)
      · rw [if_neg hid] at hkind
        exact .inl hkind
  | elapse => exact ⟨Nat.le_refl _, fun _ => .inl rfl⟩
  | deliver op => exact hsame rfl
  | tearDown => exact ⟨Nat.le_refl _, fun _ => .inr (.inr ⟨rfl, .inr (.inl rfl)⟩)⟩
  | stop => exact hsame (congrArg Services.timers (services_stop h))
  | conclude =>
      rw [react, conclude]
      split
      · exact hsame rfl
      · exact ⟨Nat.le_refl _, fun _ => .inr (.inr ⟨rfl, .inr (.inl rfl)⟩)⟩
  | drop =>
      rw [react, drop]
      split
      · simp only [services_stop]
        exact ⟨Nat.le_refl _, fun _ => .inr (.inr ⟨rfl, .inr (.inl rfl)⟩)⟩
      · exact hsame rfl
  | submit | enter | giveUp | collect | begin | reply | giveUpOperation | retire | offer | signal
  | discard | cloneBridge | dropBridge => exact hsame rfl

end Steps

/-! ## A run -/

section Runs

variable {l : Language F μ} {events : List Event}

theorem covers_run : ∀ {h : Host (State F μ)} {batch : List Callback} {lost : List Nat},
    Covers lost h.services h.guest.closures batch → Shaped l batch h.interpreter →
    (∀ e ∈ events, ∀ c, e ≠ .offer c) →
    Covers (lost ++ orphaned l.guest h events) (Host.run l.guest h events).services
      (Host.run l.guest h events).guest.closures (drained l.guest h batch events) := by
  induction events with
  | nil =>
      intro h batch lost hcovers _ _
      rw [orphaned, List.append_nil]
      exact hcovers
  | cons e events ih =>
      intro h batch lost hcovers hshaped hoffers
      obtain ⟨he, hevents⟩ := List.forall_mem_cons.1 hoffers
      rw [orphaned, ← List.append_assoc]
      exact ih (covers_react hcovers hshaped he) (hshaped.react e) hevents

/-- All live timers have numbers that were not given out before. -/
def AllSince (bound : Nat) (t : Timers) : Prop :=
  bound ≤ t.nextId ∧ ∀ id, t.isLive id = true → bound ≤ id

theorem AllSince.run {bound : Nat} : ∀ {h : Host (State F μ)} {batch : List Callback},
    AllSince bound h.services.timers → Shaped l batch h.interpreter →
    AllSince bound (Host.run l.guest h events).services.timers := by
  induction events with
  | nil => exact fun hsince _ => hsince
  | cons e events ih =>
      intro h batch hsince hshaped
      obtain ⟨hnext, hkind⟩ := kind?_react hshaped e
      refine ih (h := react l.guest h e) ⟨Nat.le_trans hsince.1 hnext, fun id hlive => ?_⟩
        (hshaped.react e)
      rw [Timers.isLive_eq] at hlive
      rcases hkind id with hsame | hnew | ⟨hnone, -⟩
      · rw [hsame, ← Timers.isLive_eq] at hlive
        exact hsince.2 id hlive
      · exact Nat.le_trans hsince.1 hnew
      · rw [hnone] at hlive
        cases hlive

/-- Nothing is cleared while no guest code runs. -/
theorem not_hasCleared {h : Host (State F μ)} {id : Nat}
    (hquiet : ∀ k < events.length, isInside (Host.run l.guest h (events.take k)).interpreter = false) :
    ¬HasCleared l h id events := by
  rintro ⟨before, after, next, rfl, -, hcontinues⟩
  have hlast := hquiet before.length (by simp)
  rw [List.take_left] at hlast
  generalize (Host.run l.guest h before).interpreter = i at hcontinues hlast
  cases hcontinues with
  | executing | invoking => cases hlast

/-- A live interval is live until it is ended by other hands or cleared by guest code. -/
theorem kind?_run {id : Nat} : ∀ {h : Host (State F μ)} {batch : List Callback},
    Shaped l batch h.interpreter → id < h.services.timers.nextId →
    h.services.timers.kind? id = some true → (∀ e ∈ events, e.mayEnd id = false) →
    ¬HasCleared l h id events →
    (Host.run l.guest h events).services.timers.kind? id = some true := by
  induction events with
  | nil => exact fun _ _ hkind _ _ => hkind
  | cons e events ih =>
      intro h batch hshaped hissued hrepeats hends hkept
      obtain ⟨he, hevents⟩ := List.forall_mem_cons.1 hends
      obtain ⟨hnext, hkind⟩ := kind?_react hshaped e
      refine ih (h := react l.guest h e) (hshaped.react e) (by omega) ?_ hevents
        fun hcleared => hkept (HasCleared.after [e] hcleared)
      rcases hkind id with hsame | hnew | ⟨-, honce | hended | ⟨rfl, next, hcontinues⟩⟩
      · exact hsame.trans hrepeats
      · omega
      · rw [hrepeats] at honce
        cases honce
      · rw [he] at hended
        cases hended
      · exact absurd ⟨[], events, next, rfl, hissued, hcontinues⟩ hkept

end Runs

/-- **A live timer has its closure unless it is an orphan.**  This holds between any two steps of any
run in which nobody puts callbacks into the queue by hand, however often the host is torn down and
whatever jobs there are.  In particular every live timer has its closure if no timer was live when the
guest dropped all closures.

After a teardown all live timers, and so all that can become orphans, have been created since.  An
orphaned interval stays live without a closure, and is counted, until guest code clears it or it is
ended by other hands; and whenever a firing of it is handed over, the firing is skipped. -/
theorem live_timer_has_closure_unless_orphaned (l : Language F μ) (memory : μ) (capacity : Nat)
    {events : List Event} (hoffers : ∀ e ∈ events, ∀ c, e ≠ .offer c) :
    let start := fresh capacity (State.start memory)
    let h := Host.run l.guest start events
    (∀ id, h.services.timers.isLive id = true →
      (h.guest.closures.contains (.timer id) = true ↔ id ∉ orphaned l.guest start events)) ∧
    (∀ before after, events = before ++ .tearDown :: after → ∀ id,
      h.services.timers.isLive id = true →
        (Host.run l.guest start before).services.timers.nextId ≤ id) ∧
    (∀ id ∈ orphaned l.guest start events, h.services.timers.kind? id = some true →
      ∀ later, (∀ e ∈ later, e.mayEnd id = false) → ¬HasCleared l h id later →
      let h' := Host.run l.guest h later
      h'.services.timers.isLive id = true ∧ 0 < h'.services.timers.size ∧
        h'.guest.closures.contains (.timer id) = false ∧
        ∀ c rest counts, c.target = .timer id →
          h'.interpreter = .invoking (l.invoke c) rest counts →
          Host.run l.guest h' [.work, .work] =
            { h' with
              interpreter := .passing rest { counts with skipped := counts.skipped + 1 } }) := by
  intro start h
  have hshaped : Shaped l [] start.interpreter := .between rfl
  have hcovers : Covers (orphaned l.guest start events) h.services h.guest.closures
      (drained l.guest start [] events) :=
    covers_run Desk.covers_start hshaped hoffers
  refine ⟨fun id hlive => hcovers.contains_iff hlive, ?_, ?_⟩
  · rintro before after rfl id hlive
    let met := Host.run l.guest start before
    have hmet : Shaped l (drained l.guest start [] before) met.interpreter := hshaped.run
    have hnone : AllSince met.services.timers.nextId (react l.guest met .tearDown).services.timers :=
      ⟨Nat.le_refl _, fun _ hlive => nomatch hlive⟩
    have hafter : AllSince met.services.timers.nextId
        (Host.run l.guest (react l.guest met .tearDown) after).services.timers :=
      hnone.run (hmet.react .tearDown)
    have hsplit : h = Host.run l.guest (react l.guest met .tearDown) after := run_append _ _ _ _
    rw [hsplit] at hlive
    exact hafter.2 id hlive
  · intro id horphan hrepeats later hends hkept h'
    have hcovered := hcovers.covered id
    have hissued : id < h.services.timers.nextId := by
      by_contra hnot
      exact (hcovered.unissued hnot).2.2.2 horphan
    have hnone : h.guest.closures.flag? (.timer id) = none := by
      cases hclosure : h.guest.closures.flag? (.timer id) with
      | none => rfl
      | some again =>
          cases again with
          | false => exact absurd horphan (hcovered.once hclosure).1
          | true => exact absurd horphan (hcovered.again hclosure).1
    have hkind := kind?_run (hshaped.run) hissued hrepeats hends hkept
    have hgone : Gone id h'.services h'.guest.closures :=
      Gone.run (h := h) ⟨hissued, hnone⟩ (hshaped.run)
    have hlive : h'.services.timers.isLive id = true := by
      rw [Timers.isLive_eq, hkind]
      rfl
    refine ⟨hlive, ?_, ?_, fun c rest counts htarget hlooks => ?_⟩
    · refine Nat.pos_of_ne_zero fun hzero => ?_
      have hget := (Table.size_eq_zero_iff _).1 hzero id
      rw [Timers.isLive, Table.contains, hget] at hlive
      cases hlive
    · rw [Closures.contains_eq, hgone.2]
      rfl
    · exact run_skip (by rw [htarget]; exact hgone.2) hlooks

/-- A language whose script asks for an interval. -/
def tickers : Language Unit Unit where
  execute _ _ := .ask (.setTimer () none true) fun _ => .finish (.returned .null) ()
  call _ _ _ := .finish (.returned .null) ()

/-- The host is torn down while the script runs.  The interval is created after that and before the
interpreter comes to the job to drop all closures. -/
def tickerMet : List Event :=
  [.submit false "" "" 0, .enter 1, .takeJob, .tearDown] ++ List.replicate 9 .work ++
    .takeJob :: List.replicate 2 .work

/-- The interval fires, and a pass takes the firing. -/
def tickerFired : List Event := [.elapse 1, .wakeTimer 1, .takeToken, .work, .work]

/-- Its firing is skipped, and it stays live. -/
theorem orphaned_interval_is_skipped :
    let h := Host.run tickers.guest (fresh 1 (State.start ())) tickerMet
    let h' := Host.run tickers.guest h tickerFired
    h'.services.timers.isLive 1 = true ∧ 0 < h'.services.timers.size ∧
      h'.guest.closures.contains (.timer 1) = false ∧
      Host.run tickers.guest h' [.work, .work] =
        { h' with interpreter := .passing [] ⟨0, 1, 0⟩ } := by
  intro h h'
  have hoffers : ∀ e ∈ tickerMet, ∀ c, e ≠ .offer c := by
    rintro e he c rfl
    simp [tickerMet] at he
  have hkept : ¬HasCleared tickers h 1 tickerFired := not_hasCleared (by decide)
  have horphaned := (live_timer_has_closure_unless_orphaned tickers () 1 hoffers).2.2 1
    List.mem_cons_self rfl tickerFired (by decide) hkept
  exact ⟨horphaned.1, horphaned.2.1, horphaned.2.2.1,
    horphaned.2.2.2 (.firing 1) [] ⟨0, 0, 0⟩ rfl rfl⟩

/-- **A live timer can have lost its closure.**  All jobs have been done and the interpreter is free:
the interval that has been created between the teardown and the dropping of all closures is live. -/
theorem closure_lost_in_teardown :
    let h := Host.run tickers.guest (fresh 1 (State.start ())) tickerMet
    h.interpreter = .selecting ∧ h.channel.jobs = [] ∧
      h.services.timers.isLive 1 = true ∧ h.guest.closures.contains (.timer 1) = false :=
  ⟨rfl, rfl, rfl, rfl⟩

end Host
end ScriptHost
