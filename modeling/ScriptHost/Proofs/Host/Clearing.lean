import Mathlib.Data.List.Induction
import ScriptHost.Proofs.Desk.Requests
import ScriptHost.Proofs.Host.Programs

/-!
# Cleared timers

A timer that has fired may have its firing in the queue, or in the batch of a pass under way, when
guest code clears it.  Clearing cannot reach into a batch.  What stops the closure from being called
is the table: the closure leaves it with the clear, the look-up of the firing finds nothing, and the
number of the timer is never given to another one (`Gone`).

The answer of a clear tells whether the closure was still in the table.  It was if the timer was live
or a firing of it was in the queue.  A firing in the batch says so too, unless the timer has been
cleared since the firing was drained (`cleared_of_drained`).
-/

namespace ScriptHost.Host

open Desk (Answer Ask Language Program State)
open Ready (Callback Closures PassCounts Target occurrences)

variable {F μ : Type}

/-- The number has been given out, and its timer has no closure. -/
def Gone (id : Nat) (services : Services) (closures : Closures F) : Prop :=
  id < services.timers.nextId ∧ closures.flag? (.timer id) = none

/-! ## What a request does to closures -/

theorem Gone.effect {id : Nat} {s s' : Services} {closures closures' : Closures F}
    {request : Ask F} (hgone : Gone id s closures)
    (heffect : Desk.Effect s closures request s' closures') : Gone id s' closures' := by
  obtain ⟨hissued, hnone⟩ := hgone
  cases heffect with
  | nothing => exact ⟨hissued, hnone⟩
  | @creates delay millis new repeating timers closure hcreate =>
      -- the new timer takes the next number, which is above this one
      obtain ⟨rfl, hnext, -⟩ := Timers.create_eq_ok hcreate
      have hother : Target.timer id ≠ .timer s.timers.nextId := by
        simp only [ne_eq, Target.timer.injEq]
        omega
      have hlater : id < timers.nextId := by omega
      exact ⟨hlater, by rw [Closures.flag?_insertTimer, if_neg hother, hnone]⟩
  | clears other => exact ⟨hissued, by rw [Closures.flag?_release, hnone, ite_self]⟩
  | starts closure operation =>
      exact ⟨hissued, by rw [Closures.flag?_insertCompletion, hnone, if_neg (by simp)]⟩
  | closes => exact ⟨hissued, hnone⟩

/-- Only a clear takes the closure of a timer from the table. -/
theorem clears_of_flag? {id : Nat} {again : Bool} {s s' : Services} {closures closures' : Closures F}
    {request : Ask F} (heffect : Desk.Effect s closures request s' closures')
    (hsome : closures.flag? (.timer id) = some again)
    (hnone : closures'.flag? (.timer id) = none) : request = .clearTimer (some id) := by
  cases heffect with
  | nothing | closes =>
      rw [hsome] at hnone
      cases hnone
  | creates closure hcreate =>
      rw [Closures.flag?_insertTimer, hsome] at hnone
      split at hnone <;> cases hnone
  | starts closure operation =>
      rw [Closures.flag?_insertCompletion, if_neg (by simp), hsome] at hnone
      cases hnone
  | clears other =>
      rw [Closures.flag?_release, hsome] at hnone
      split at hnone
      · rename_i heq
        rw [Target.timer.inj heq]
      · cases hnone

/-! ## A closure that is gone stays so -/

section Steps

variable {l : Language F μ} {h : Host (State F μ)} {batch : List Callback} {id : Nat}

theorem Gone.work (hgone : Gone id h.services h.guest.closures)
    (hshaped : Shaped l batch h.interpreter) :
    Gone id ((h.work? l.guest).getD h).services ((h.work? l.guest).getD h).guest.closures := by
  rcases (moves hshaped).1 with ⟨-, hworld, -⟩ | ⟨-, -, hworld⟩ | ⟨hservices, hguest, -⟩ |
    ⟨hservices, hclosures, -⟩
  · obtain ⟨hservices, hguest⟩ := Prod.mk.inj hworld
    rw [hservices, hguest]
    exact hgone.effect (Desk.perform_effect _ _ _)
  · obtain ⟨hservices, hguest⟩ := Prod.mk.inj hworld
    rw [hservices, hguest]
    refine ⟨hgone.1, ?_⟩
    show (h.guest.closures.resolve _).2.flag? _ = none
    rw [Closures.flag?_resolve, hgone.2, ite_self]
  · rw [hservices, hguest]
    exact hgone
  · rw [hservices, hclosures]
    exact hgone

/-- All closures are gone once the guest has dropped them. -/
theorem Gone.releaseAll {s : Services} {guest : State F μ} (hgone : Gone id s guest.closures) :
    Gone id s (l.guest.releaseAll guest).closures := ⟨hgone.1, rfl⟩

theorem Gone.react (hgone : Gone id h.services h.guest.closures)
    (hshaped : Shaped l batch h.interpreter) (e : Event) :
    Gone id (Host.react l.guest h e).services (Host.react l.guest h e).guest.closures := by
  cases e with
  | work => exact hgone.work hshaped
  | takeJob =>
      simp only [Host.react, takeJob?]
      split
      · exact hgone
      · exact hgone.releaseAll (l := l)
      · exact hgone.releaseAll (l := l)
      · exact hgone
  | takeToken =>
      simp only [Host.react, takeToken?]
      split
      · exact hgone
      · exact hgone
  | disconnect =>
      simp only [Host.react, disconnect?]
      split
      · split
        · exact hgone.releaseAll (l := l)
        · exact hgone
      · exact hgone
  | wakeTimer other =>
      refine ⟨?_, hgone.2⟩
      show id < (h.services.wakeTimer other).timers.nextId
      rw [Services.wakeTimer]
      split
      · exact (Timers.nextId_fireAt _ _ _ _).symm ▸ hgone.1
      · exact hgone.1
  | stop =>
      simp only [Host.react, stop]
      split <;> exact hgone
  | conclude =>
      simp only [Host.react, conclude]
      split <;> exact hgone
  | drop =>
      simp only [Host.react, drop, stop]
      split
      · split <;> exact hgone
      · exact hgone
  | submit | enter | giveUp | collect | elapse | cancelTimer | begin | reply | giveUpOperation
  | deliver | retire | offer | signal | discard | tearDown | cloneBridge | dropBridge => exact hgone

theorem Gone.run {events : List Event} :
    ∀ {h : Host (State F μ)} {batch : List Callback}, Gone id h.services h.guest.closures →
      Shaped l batch h.interpreter →
      Gone id (Host.run l.guest h events).services (Host.run l.guest h events).guest.closures := by
  induction events with
  | nil => exact fun hgone _ => hgone
  | cons e events ih => exact fun hgone hshaped => ih (hgone.react hshaped e) (hshaped.react e)

/-- The firing of a timer without a closure is counted as skipped, and nothing else comes of it. -/
theorem run_skip {c : Callback} {rest : List Callback} {counts : PassCounts}
    (hnone : h.guest.closures.flag? c.target = none)
    (hlooks : h.interpreter = .invoking (l.invoke c) rest counts) :
    Host.run l.guest h [.work, .work] =
      { h with interpreter := .passing rest { counts with skipped := counts.skipped + 1 } } := by
  obtain ⟨services, ⟨closures, memory⟩, bridge, channel, interpreter, held, bridges⟩ := h
  subst hlooks
  have hget : closures.table.get? c.target = none := Option.map_eq_none_iff.1 hnone
  have hresolve : closures.resolve c.target = (none, closures) := by rw [Closures.resolve, hget]
  simp only [Host.run, List.foldl, Host.react, work?, Language.invoke, Guest.Code.advance,
    State.resolve, hresolve, Option.getD_some, Guest.Code.return_, PassCounts.add]

end Steps

/-! ## What has happened before -/

variable (l : Language F μ) (start : Host (State F μ)) (id : Nat)

/-- In a run, guest code has asked to clear a timer whose number had been given out. -/
def HasCleared (events : List Event) : Prop :=
  ∃ before after next, events = before ++ .work :: after ∧
    id < (Host.run l.guest start before).services.timers.nextId ∧
    Continues (.ask (.clearTimer (some id)) next) (Host.run l.guest start before).interpreter

/-- In a run, a closure that is used once has been started for the firing of a timer. -/
def HasStarted (events : List Event) : Prop :=
  ∃ before after c, events = before ++ .work :: after ∧ c.target = .timer id ∧
    LooksUp l c (Host.run l.guest start before) ∧
    (Host.run l.guest start before).guest.closures.flag? (.timer id) = some false

variable {l start id}

theorem run_append (g : Guest (State F μ)) (h : Host (State F μ)) (events later : List Event) :
    Host.run g h (events ++ later) = Host.run g (Host.run g h events) later :=
  List.foldl_append

theorem drained_append (g : Guest (State F μ)) (events later : List Event) :
    ∀ (h : Host (State F μ)) (batch : List Callback), drained g h batch (events ++ later) =
      drained g (Host.run g h events) (drained g h batch events) later := by
  induction events with
  | nil => exact fun _ _ => rfl
  | cons e events ih => exact fun h batch => ih (react g h e) (drainedAfter h batch e)

theorem HasCleared.append {events : List Event} (hcleared : HasCleared l start id events)
    (later : List Event) : HasCleared l start id (events ++ later) := by
  obtain ⟨before, after, next, rfl, hissued, hcontinues⟩ := hcleared
  exact ⟨before, after ++ later, next, by simp, hissued, hcontinues⟩

theorem HasCleared.after (earlier : List Event) {events : List Event}
    (hcleared : HasCleared l (Host.run l.guest start earlier) id events) :
    HasCleared l start id (earlier ++ events) := by
  obtain ⟨before, after, next, rfl, hissued, hcontinues⟩ := hcleared
  rw [← run_append] at hissued hcontinues
  exact ⟨earlier ++ before, after, next, by simp, hissued, hcontinues⟩

/-! ## How a closure goes -/

section Going

variable {h : Host (State F μ)} {batch : List Callback}

/-- A timer with a closure has a number that has been given out. -/
theorem Consistent.issued (hconsistent : Consistent l h batch) {again : Bool}
    (hsome : h.guest.closures.flag? (.timer id) = some again) : id < h.services.timers.nextId := by
  have hsound := hconsistent.fits.sound (.timer id)
  refine of_decide_eq_true (?_ : (decide (id < h.services.timers.nextId)) = true)
  cases again with
  | false => exact ((Desk.Standing.sound_iff_of_once hsome).1 hsound).1
  | true => exact ((Desk.Standing.sound_iff_of_again hsome).1 hsound).1

/-- A clear takes the closure of its timer away. -/
theorem gone_of_clear {next : Answer → Program F μ} (hissued : id < h.services.timers.nextId)
    (hcontinues : Continues (.ask (.clearTimer (some id)) next) h.interpreter) :
    Gone id ((h.work? l.guest).getD h).services ((h.work? l.guest).getD h).guest.closures := by
  obtain ⟨i, hwork, -⟩ := continues_next (l := l) hcontinues
  rw [hwork]
  refine ⟨hissued, ?_⟩
  show (h.guest.closures.release (.timer id)).2.flag? _ = none
  rw [Closures.flag?_release, if_pos rfl]

/-- So does the start of a closure that is used once. -/
theorem gone_of_start (hconsistent : Consistent l h batch) {c : Callback}
    (htarget : c.target = .timer id) (hlooks : LooksUp l c h)
    (honce : h.guest.closures.flag? (.timer id) = some false) :
    Gone id ((h.work? l.guest).getD h).services ((h.work? l.guest).getD h).guest.closures := by
  have hissued := hconsistent.issued honce
  obtain ⟨services, guest, bridge, channel, interpreter, held, bridges⟩ := h
  obtain ⟨rest, counts, rfl⟩ := hlooks
  refine ⟨hissued, ?_⟩
  show (guest.closures.resolve c.target).2.flag? (.timer id) = none
  rw [htarget, Closures.flag?_resolve, if_pos ⟨rfl, honce⟩]

/-- What is gone is neither live nor queued, as long as timers and entries are left to guest code. -/
theorem Consistent.idle (hconsistent : Consistent l h batch)
    (hgone : Gone id h.services h.guest.closures) :
    h.services.timers.isLive id = false ∧
      ∀ c ∈ h.services.queue.entries, c.target ≠ .timer id := by
  obtain ⟨hsources, hqueued, -⟩ :=
    (Desk.Standing.sound_iff_of_none hgone.2).1 (hconsistent.fits.sound (.timer id))
  constructor
  · refine Bool.eq_false_iff.2 fun hlive => ?_
    have := (Desk.sources_timer_pos_iff _ _).2 hlive
    exact Nat.ne_of_gt this hsources
  · intro c hmem htarget
    have := (Ready.Queue.count_pos_iff h.services.queue (.timer id)).2 ⟨c, hmem, htarget⟩
    exact Nat.ne_of_gt this hqueued

/-- Ordinary events leave the guest to its own code. -/
theorem Consistent.guest_react (hconsistent : Consistent l h batch) {e : Event}
    (he : e.isOrdinary = true) (hwork : e ≠ .work) : (Host.react l.guest h e).guest = h.guest := by
  cases e with
  | work => exact absurd rfl hwork
  | takeJob =>
      simp only [Host.react, takeJob?]
      split
      · rfl
      · rename_i channel hselecting htake
        obtain ⟨request, hrequest⟩ := hconsistent.jobs .releaseClosures
          (Submission.Channel.take_eq_some htake ▸ List.mem_cons_self)
        cases hrequest
      · rename_i channel hselecting htake
        obtain ⟨request, hrequest⟩ := hconsistent.jobs .stop
          (Submission.Channel.take_eq_some htake ▸ List.mem_cons_self)
        cases hrequest
      · rfl
  | takeToken =>
      simp only [Host.react, takeToken?]
      split <;> rfl
  | disconnect =>
      have hconnected : h.isDisconnected = false := by
        rw [isDisconnected, hconsistent.held]
        rfl
      simp only [Host.react, disconnect?, hconnected]
      split <;> rfl
  | cancelTimer | offer | discard | tearDown | stop | conclude | drop => cases he
  | submit | enter | giveUp | collect | elapse | wakeTimer | begin | reply | giveUpOperation
  | deliver | retire | signal | cloneBridge | dropBridge => rfl

/-- If a step leaves a drained firing without a closure, then either there was none before or the
step has cleared the timer. -/
theorem Consistent.clears_work (hconsistent : Consistent l h batch)
    (hshaped : Shaped l batch h.interpreter)
    (hdrained : 0 < occurrences (drainedAfter h batch .work) (.timer id))
    (hnone : ((h.work? l.guest).getD h).guest.closures.flag? (.timer id) = none) :
    0 < occurrences batch (.timer id) ∧ h.guest.closures.flag? (.timer id) = none ∨
      HasCleared l h id [.work] := by
  rcases (moves hshaped).1 with ⟨hcontinues, hworld, hbatch⟩ | ⟨-, hbatch, hworld⟩ |
    ⟨-, hguest, hbatch⟩ | ⟨-, hclosures, hbatch⟩
  · rw [hbatch] at hdrained
    cases hclosure : h.guest.closures.flag? (.timer id) with
    | none => exact .inl ⟨hdrained, rfl⟩
    | some again =>
        rw [(Prod.mk.inj hworld).2] at hnone
        have hrequest := clears_of_flag? (Desk.perform_effect _ _ _) hclosure hnone
        subst hrequest
        exact .inr ⟨[], [], _, rfl, hconsistent.issued hclosure, hcontinues⟩
  · have hbefore : ∀ t, occurrences (drainedAfter h batch .work) t ≤ occurrences batch t := by
      intro t
      conv => rhs; rw [hbatch, Ready.occurrences_cons]
      exact Nat.le_add_right _ _
    refine .inl ⟨Nat.lt_of_lt_of_le hdrained (hbefore _), ?_⟩
    cases hclosure : h.guest.closures.flag? (.timer id) with
    | none => rfl
    | some again =>
        -- the look-up takes only a closure whose one use the callback was
        rw [(Prod.mk.inj hworld).2] at hnone
        change (h.guest.closures.resolve _).2.flag? _ = none at hnone
        rw [Closures.flag?_resolve] at hnone
        split at hnone
        · rename_i htaken
          obtain ⟨htarget, honce⟩ := htaken
          rw [← htarget] at honce
          have hsum := ((Desk.Standing.sound_iff_of_once honce).1
            (hconsistent.fits.sound (.timer id))).2.2
          have hfront : occurrences batch (.timer id) =
              occurrences (drainedAfter h batch .work) (.timer id) + 1 := by
            conv => lhs; rw [hbatch, Ready.occurrences_cons, if_pos htarget.symm]
          change _ + _ + occurrences batch (.timer id) = 1 at hsum
          omega
        · rw [hclosure] at hnone
          cases hnone
  · -- what a drain takes out has its closure
    rw [hbatch] at hdrained
    have hcontains := hconsistent.fits.contains_of_use (t := .timer id) (.inr hdrained)
    rw [hguest] at hnone
    rw [Closures.contains_eq, hnone] at hcontains
    cases hcontains
  · rw [hbatch] at hdrained
    rw [hclosures] at hnone
    exact .inl ⟨hdrained, hnone⟩

theorem Consistent.clears (hconsistent : Consistent l h batch)
    (hshaped : Shaped l batch h.interpreter) {e : Event} (he : e.isOrdinary = true)
    (hdrained : 0 < occurrences (drainedAfter h batch e) (.timer id))
    (hnone : (Host.react l.guest h e).guest.closures.flag? (.timer id) = none) :
    0 < occurrences batch (.timer id) ∧ h.guest.closures.flag? (.timer id) = none ∨
      HasCleared l h id [e] := by
  by_cases hwork : e = .work
  · subst hwork
    exact hconsistent.clears_work hshaped hdrained hnone
  · rw [drainedAfter_of_ne hwork] at hdrained
    rw [hconsistent.guest_react he hwork] at hnone
    exact .inl ⟨hdrained, hnone⟩

end Going

/-! ## A run -/

/-- A firing that has been drained and has no closure is of a timer that has been cleared. -/
theorem cleared_of_drained {events : List Event} (hconsistent : Consistent l start [])
    (hshaped : Shaped l [] start.interpreter) (hordinary : ∀ e ∈ events, e.isOrdinary = true)
    (hdrained : 0 < occurrences (drained l.guest start [] events) (.timer id))
    (hnone : (Host.run l.guest start events).guest.closures.flag? (.timer id) = none) :
    HasCleared l start id events := by
  induction events using List.reverseRecOn with
  | nil => cases hdrained
  | append_singleton events e ih =>
      have hbefore : ∀ e ∈ events, e.isOrdinary = true := fun e hmem =>
        hordinary e (List.mem_append_left _ hmem)
      rw [drained_append] at hdrained
      rw [run_append] at hnone
      -- either the firing had no closure before, or the last event has cleared the timer
      rcases (hconsistent.run hbefore).clears hshaped.run (hordinary e (by simp)) hdrained hnone with
        ⟨hstale, hgone⟩ | hcleared
      · exact (ih hbefore hstale hgone).append [e]
      · exact hcleared.after events

/-- Nothing is registered for a timer that has been cleared, or whose closure was used once and has
been started, or whose number has not been given out. -/
theorem flag?_eq_none {events : List Event} (hconsistent : Consistent l start [])
    (hshaped : Shaped l [] start.interpreter) (hordinary : ∀ e ∈ events, e.isOrdinary = true)
    (hgone : (Host.run l.guest start events).services.timers.nextId ≤ id ∨
      HasCleared l start id events ∨ HasStarted l start id events) :
    (Host.run l.guest start events).guest.closures.flag? (.timer id) = none := by
  rcases hgone with hunknown | ⟨before, after, next, rfl, hissued, hcontinues⟩ |
    ⟨before, after, c, rfl, htarget, hlooks, honce⟩
  · cases hclosure : (Host.run l.guest start events).guest.closures.flag? (.timer id) with
    | none => rfl
    | some again =>
        have := (hconsistent.run hordinary).issued hclosure
        omega
  · rw [run_append]
    have hbefore : Shaped l _ (Host.run l.guest start before).interpreter := hshaped.run
    exact ((gone_of_clear hissued hcontinues).run (hbefore.react .work)).2
  · rw [run_append]
    have hbefore : Shaped l _ (Host.run l.guest start before).interpreter := hshaped.run
    have hfits := hconsistent.run fun e hmem => hordinary e (List.mem_append_left _ hmem)
    exact ((gone_of_start hfits htarget hlooks honce).run (hbefore.react .work)).2

/-! ## A clear -/

section Clear

variable {h : Host (State F μ)} {batch : List Callback} {next : Answer → Program F μ}

/-- What a clear of a timer leaves alone: every other closure, every other timer and entry, the
network, and what the guest keeps besides. -/
structure Spares (id : Nat) (h h' : Host (State F μ)) : Prop where
  closures : ∀ t, t ≠ .timer id →
    h'.guest.closures.table.get? t = h.guest.closures.table.get? t
  timers : ∀ j, j ≠ id → h'.services.timers.live.get? j = h.services.timers.live.get? j
  entries : h'.services.queue.entries = h.services.queue.entries.filter (·.target ≠ .timer id)
  network : h'.services.network = h.services.network
  memory : h'.guest.memory = h.guest.memory

theorem isSome_release (closures : Closures F) (t : Target) :
    (closures.release t).1.isSome = closures.contains t := by
  rw [Closures.release, Closures.contains, Table.contains]
  cases closures.table.get? t with
  | none => rfl
  | some closure => rfl

theorem get?_release (closures : Closures F) {t other : Target} (hother : other ≠ t) :
    (closures.release t).2.table.get? other = closures.table.get? other := by
  rw [Closures.release]
  split
  · rfl
  · rw [Table.get?_erase, if_neg hother]

/-- The program goes on with the answer whether the closure was still registered. -/
theorem Consistent.answer (hconsistent : Consistent l h batch)
    (hcontinues : Continues (.ask (.clearTimer (some id)) next) h.interpreter) :
    Continues (next (.flag (h.guest.closures.contains (.timer id))))
      ((h.work? l.guest).getD h).interpreter := by
  obtain ⟨i, hwork, hnext⟩ := continues_next (l := l) hcontinues
  have hanswer : (State.perform (.clearTimer (some id)) (h.services, h.guest)).1 =
      .flag (h.guest.closures.contains (.timer id)) := by
    show Answer.flag (h.services.timers.isLive id ||
      (h.guest.closures.release (.timer id)).1.isSome) = _
    rw [isSome_release]
    cases hlive : h.services.timers.isLive id with
    | false => rfl
    | true =>
        have hsources := (Desk.sources_timer_pos_iff h.services id).2 hlive
        rw [hconsistent.fits.contains_of_use (.inl hsources)]
        rfl
  rw [hwork, ← hanswer]
  exact hnext

theorem Consistent.spares (hconsistent : Consistent l h batch)
    (hcontinues : Continues (.ask (.clearTimer (some id)) next) h.interpreter) :
    Spares id h ((h.work? l.guest).getD h) := by
  obtain ⟨i, hwork, -⟩ := continues_next (l := l) hcontinues
  rw [hwork]
  exact {
    closures := fun t ht => get?_release h.guest.closures ht
    timers := fun j hj => (Table.get?_erase _ _ _).trans (if_neg hj)
    entries := hconsistent.fits.indexed.entries_discard id
    network := rfl
    memory := rfl }

/-- The closure of a timer is registered exactly if there is a use for it that the guest has not
cleared. -/
theorem contains_iff_use {events : List Event} (hconsistent : Consistent l start [])
    (hshaped : Shaped l [] start.interpreter) (hordinary : ∀ e ∈ events, e.isOrdinary = true) :
    (Host.run l.guest start events).guest.closures.contains (.timer id) = true ↔
      ¬HasCleared l start id events ∧
        ((Host.run l.guest start events).services.timers.isLive id = true ∨
          (∃ c ∈ (Host.run l.guest start events).services.queue.entries, c.target = .timer id) ∨
          ∃ c ∈ drained l.guest start [] events, c.target = .timer id) := by
  have hfits := (hconsistent.run hordinary).fits
  rw [← Desk.sources_timer_pos_iff, ← Ready.Queue.count_pos_iff, ← Ready.occurrences_pos_iff]
  constructor
  · intro hcontains
    refine ⟨fun hcleared => ?_, hfits.use_of_contains hcontains⟩
    have hnone := flag?_eq_none hconsistent hshaped hordinary (.inr (.inl hcleared))
    rw [Closures.contains_eq, hnone] at hcontains
    cases hcontains
  · rintro ⟨hkept, hlive | hqueued | hdrained⟩
    · exact hfits.contains_of_use (.inl hlive)
    · exact hfits.contains_of_use (.inr hqueued)
    · rw [Closures.contains_eq]
      cases hclosure : (Host.run l.guest start events).guest.closures.flag? (.timer id) with
      | some again => rfl
      | none =>
          exact absurd (cleared_of_drained hconsistent hshaped hordinary hdrained hclosure) hkept

end Clear

/-- **A cleared timer's closure never runs.**  When a program that runs on a host asks to clear a
timer, the answer is whether the closure of the timer was still registered.  It was exactly if the
timer was live, or a firing of it in the queue or drained and not looked up, and no clear had come
before; in particular it was not if the number is unknown or if a closure that is used once had been
started.  Nothing but the one timer is touched.  And whatever happens later, the closure of a timer
whose number was known is not in the table, and the firing that a pass has drained is counted as
skipped and has no other effect; nor is the timer live or queued again unless by other hands. -/
theorem cleared_closure_never_starts (l : Language F μ) (memory : μ) (capacity id : Nat)
    {events : List Event} (hordinary : ∀ e ∈ events, e.isOrdinary = true)
    {next : Answer → Program F μ}
    (hcontinues : Continues (.ask (.clearTimer (some id)) next)
      (Host.run l.guest (fresh capacity (State.start memory)) events).interpreter) :
    let start := fresh capacity (State.start memory)
    let h := Host.run l.guest start events
    let cleared := Host.react l.guest h .work
    let registered := h.guest.closures.contains (.timer id)
    Continues (next (.flag registered)) cleared.interpreter ∧
    (registered = true ↔ ¬HasCleared l start id events ∧
      (h.services.timers.isLive id = true ∨
        (∃ c ∈ h.services.queue.entries, c.target = .timer id) ∨
        ∃ c ∈ drained l.guest start [] events, c.target = .timer id)) ∧
    (id = 0 ∨ h.services.timers.nextId ≤ id ∨ HasStarted l start id events →
      registered = false) ∧
    Spares id h cleared ∧
    (id < h.services.timers.nextId → ∀ later : List Event,
      let h' := Host.run l.guest cleared later
      h'.guest.closures.contains (.timer id) = false ∧
      (∀ c rest counts, c.target = .timer id → h'.interpreter = .invoking (l.invoke c) rest counts →
        Host.run l.guest h' [.work, .work] =
          { h' with interpreter := .passing rest { counts with skipped := counts.skipped + 1 } }) ∧
      ((∀ e ∈ later, e.isOrdinary = true) → h'.services.timers.isLive id = false ∧
        ∀ c ∈ h'.services.queue.entries, c.target ≠ .timer id)) := by
  intro start h cleared registered
  have hfresh : Consistent l start [] := consistent_fresh l capacity memory
  have hshaped : Shaped l [] start.interpreter := .between rfl
  have hconsistent : Consistent l h _ := hfresh.run hordinary
  refine ⟨hconsistent.answer hcontinues, contains_iff_use hfresh hshaped hordinary, fun hno => ?_,
    hconsistent.spares hcontinues, fun hissued later => ?_⟩
  · show h.guest.closures.contains (.timer id) = false
    have hnone : h.guest.closures.flag? (.timer id) = none := by
      rcases hno with rfl | hunknown | hstarted
      · -- zero counts as given out from the beginning
        have hzero : Gone 0 start.services start.guest.closures := ⟨Nat.one_pos, rfl⟩
        exact (hzero.run hshaped).2
      · exact flag?_eq_none hfresh hshaped hordinary (.inl hunknown)
      · exact flag?_eq_none hfresh hshaped hordinary (.inr (.inr hstarted))
    rw [Closures.contains_eq, hnone]
    rfl
  · intro h'
    have hgone : Gone id cleared.services cleared.guest.closures := gone_of_clear hissued hcontinues
    have hlater : Gone id h'.services h'.guest.closures :=
      hgone.run ((hshaped.run).react .work)
    refine ⟨?_, fun c rest counts htarget hlooks => ?_, fun hord => ?_⟩
    · rw [Closures.contains_eq, hlater.2]
      rfl
    · exact run_skip (by rw [htarget]; exact hlater.2) hlooks
    · exact ((hconsistent.react .work rfl).run hord).idle hlater

/-- A language whose script asks for two timers, and whose first closure clears the second timer. -/
def rivals : Language Bool Unit where
  execute _ _ :=
    .ask (.setTimer true none false) fun _ =>
      .ask (.setTimer false none false) fun _ => .finish (.returned .null) ()
  call first _ _ :=
    if first then .ask (.clearTimer (some 2)) fun _ => .finish (.returned .null) ()
    else .finish (.returned .null) ()

/-- Both timers fire before the pass begins, and the first closure is about to clear the second
timer. -/
def rivalsMet : List Event :=
  [.submit false "" "" 0, .enter 1, .takeJob] ++ List.replicate 8 .work ++
    [.wakeTimer 1, .wakeTimer 2] ++ List.replicate 3 .work

/-- The firing of the second timer is further back in the batch by then.  It is counted as skipped. -/
theorem rival_is_skipped :
    let h := Host.run rivals.guest (fresh 1 (State.start ())) rivalsMet
    let looking := Host.run rivals.guest (Host.react rivals.guest h .work) (List.replicate 3 .work)
    h.guest.closures.contains (.timer 2) = true ∧
      looking.interpreter = .invoking (rivals.invoke (.firing 2)) [] ⟨1, 0, 0⟩ ∧
      Host.run rivals.guest looking [.work, .work] =
        { looking with interpreter := .passing [] ⟨1, 1, 0⟩ } :=
  have hclear := cleared_closure_never_starts rivals () 1 2 (by decide) (.invoking [.firing 2] .zero)
  ⟨rfl, rfl, (hclear.2.2.2.2 (by decide) (List.replicate 3 .work)).2.1 (.firing 2) [] ⟨1, 0, 0⟩ rfl rfl⟩

end ScriptHost.Host
