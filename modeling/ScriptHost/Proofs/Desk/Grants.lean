import ScriptHost.Proofs.Desk.Requests
import ScriptHost.Proofs.Desk.Standing

/-!
# Requests that register a closure

A request for a timer or for an operation brings a closure to be called later.  It is granted as a
whole or not at all: either it is refused, and nothing has changed, or its closure is registered under
a number that was not given out, and the timer or the operation of this number is there
(`refuses_or_grants`).

That nothing else has the number rests on what holds between any two requests: under a number that
has not been given out no closure is registered, no timer is live, and no operation is in flight
(`OnlyIssued`).  A request gives out one number at most, and whatever else happens to the services
gives out none and brings nothing new (`Fades`).
-/

namespace ScriptHost.Desk

open Ready (Closures Target)

variable {F : Type} {s s' : Services} {closures closures' : Closures F} {request : Ask F}

/-! ## Numbers that have been given out -/

/-- Nothing is registered and nothing runs under a number that has not been given out. -/
def OnlyIssued (s : Services) (closures : Closures F) : Prop :=
  ∀ t, isIssued s closures t = false → closures.contains t = false ∧ sources s t = 0

theorem onlyIssued_start : OnlyIssued .idle (.empty : Closures F) := by
  intro t _
  cases t with
  | timer id => exact ⟨rfl, rfl⟩
  | completion id => exact ⟨rfl, rfl⟩

theorem sources_timer_eq_zero_iff (s : Services) (id : Nat) :
    sources s (.timer id) = 0 ↔ s.timers.isLive id = false := by
  rw [sources]
  split <;> simp_all

/-- No number is given out, and no closure, no timer and no operation is new. -/
structure Fades (s : Services) (closures : Closures F) (s' : Services) (closures' : Closures F) :
    Prop where
  timers : s'.timers.nextId = s.timers.nextId
  completions : closures'.nextCompletion = closures.nextCompletion
  closure : ∀ t, closures'.contains t = true → closures.contains t = true
  live : ∀ id, s'.timers.isLive id = true → s.timers.isLive id = true
  flight : ∀ id, s'.network.inFlight id ≤ s.network.inFlight id

namespace Fades

/-- Only the queue may have changed. -/
theorem same (htimers : s'.timers = s.timers) (hnetwork : s'.network = s.network) :
    Fades s closures s' closures where
  timers := by rw [htimers]
  completions := rfl
  closure _ h := h
  live _ h := by rwa [htimers] at h
  flight _ := Nat.le_of_eq (by rw [hnetwork])

theorem issued (h : Fades s closures s' closures') (t : Target) :
    isIssued s' closures' t = isIssued s closures t := by
  cases t with
  | timer id => rw [isIssued, isIssued, h.timers]
  | completion id => rw [isIssued, isIssued, h.completions]

theorem onlyIssued (h : Fades s closures s' closures') (honly : OnlyIssued s closures) :
    OnlyIssued s' closures' := by
  intro t hnot
  rw [h.issued] at hnot
  obtain ⟨hnone, hsources⟩ := honly t hnot
  refine ⟨Bool.eq_false_iff.2 fun hsome => ?_, ?_⟩
  · rw [h.closure t hsome] at hnone
    cases hnone
  · cases t with
    | timer id =>
        rw [sources_timer_eq_zero_iff] at hsources ⊢
        exact Bool.eq_false_iff.2 fun hlive => Bool.eq_false_iff.1 hsources (h.live id hlive)
    | completion id => exact Nat.eq_zero_of_le_zero (hsources ▸ h.flight id)

/-- Clearing a timer takes it and its closure away. -/
theorem clear (s : Services) (closures : Closures F) (id : Nat) :
    Fades s closures (s.cancelTimer id).2 (closures.release (.timer id)).2 where
  timers := rfl
  completions := Closures.nextCompletion_release _ _
  closure t h := by
    rw [Closures.contains_eq, Closures.flag?_release] at h
    split at h
    · cases h
    · rwa [Closures.contains_eq]
  live other h := by
    have hkind := Timers.kind?_remove s.timers id other
    rw [Timers.isLive_eq] at h ⊢
    change ((s.timers.remove id).2.kind? other).isSome = true at h
    rw [hkind] at h
    split at h
    · cases h
    · exact h
  flight _ := Nat.le_refl _

end Fades

/-- A number that has been given out is not taken back by a request. -/
theorem issued_effect (heffect : Effect s closures request s' closures') {t : Target}
    (hissued : isIssued s closures t = true) : isIssued s' closures' t = true := by
  cases heffect with
  | nothing | closes => exact hissued
  | clears id => rw [(Fades.clear s closures id).issued, hissued]
  | @creates delay millis id repeating timers closure hcreate =>
      obtain ⟨-, hnext, -⟩ := Timers.create_eq_ok hcreate
      cases t with
      | timer other =>
          have hlt : other < s.timers.nextId := of_decide_eq_true hissued
          have hlater : other < timers.nextId := by omega
          exact decide_eq_true hlater
      | completion other => exact hissued
  | starts closure request =>
      cases t with
      | timer other => exact hissued
      | completion other =>
          have hlt : other < closures.nextCompletion := of_decide_eq_true hissued
          have hlater : other < closures.nextCompletion + 1 := by omega
          exact decide_eq_true hlater

/-- What a request brings has the number that it gives out. -/
theorem OnlyIssued.effect (honly : OnlyIssued s closures) (hnumbered : s.network.Numbered)
    (heffect : Effect s closures request s' closures') : OnlyIssued s' closures' := by
  intro t hnot
  have hbefore : isIssued s closures t = false := Bool.eq_false_iff.2 fun hissued =>
    Bool.eq_false_iff.1 hnot (issued_effect heffect hissued)
  obtain ⟨hnone, hsources⟩ := honly t hbefore
  cases heffect with
  | nothing | closes => exact ⟨hnone, hsources⟩
  | clears id => exact (Fades.clear s closures id).onlyIssued honly t hnot
  | @creates delay millis id repeating timers closure hcreate =>
      -- the new timer has the number that was next, and this one counts as given out now
      obtain ⟨rfl, hnext, hkind⟩ := Timers.create_eq_ok hcreate
      have hother : t ≠ .timer s.timers.nextId := by
        rintro rfl
        have hlater : s.timers.nextId < timers.nextId := by omega
        exact Bool.eq_false_iff.1 hnot (decide_eq_true hlater)
      rw [Closures.contains_eq] at hnone ⊢
      rw [Closures.flag?_insertTimer, if_neg hother]
      refine ⟨hnone, ?_⟩
      cases t with
      | timer other =>
          rw [sources_timer_eq_zero_iff, Timers.isLive_eq] at hsources ⊢
          change (timers.kind? other).isSome = false
          rw [hkind, if_neg fun heq => hother (congrArg _ heq), hsources]
      | completion other => exact hsources
  | starts closure request =>
      have hother : t ≠ .completion closures.nextCompletion := by
        rintro rfl
        exact Bool.eq_false_iff.1 hnot (decide_eq_true (Nat.lt_succ_self _))
      rw [Closures.contains_eq] at hnone ⊢
      rw [Closures.flag?_insertCompletion, if_neg hother]
      refine ⟨hnone, ?_⟩
      cases t with
      | timer other => exact hsources
      | completion other =>
          refine (hnumbered.inFlight_start request closures.nextCompletion other).trans ?_
          rw [if_neg fun heq => hother (congrArg _ heq.symm), Nat.add_zero]
          exact hsources

/-! ## What is granted -/

/-- The closure that a request brings. -/
def Ask.closure? : Ask F → Option F
  | .setTimer closure _ _ | .start closure _ => some closure
  | .clearTimer _ | .close _ _ => none

/-- One closure is registered, for a target that had none. -/
structure Registers (t : Target) (closure : F) (repeating : Bool) (closures closures' : Closures F) :
    Prop where
  absent : closures.contains t = false
  get? : ∀ other, closures'.table.get? other =
    if other = t then some ⟨closure, repeating⟩ else closures.table.get? other
  size : closures'.size = closures.size + 1

/-- One timer is live that was not, and it has the next number. -/
structure Creates (id : Nat) (repeating : Bool) (s s' : Services) : Prop where
  number : id = s.timers.nextId
  next : s'.timers.nextId = id + 1
  absent : s.timers.isLive id = false
  get? : ∃ timer : Timer, timer.repeating = repeating ∧ ∀ other, s'.timers.live.get? other =
    if other = id then some timer else s.timers.live.get? other
  size : s'.timers.size = s.timers.size + 1
  queue : s'.queue = s.queue
  network : s'.network = s.network

/-- One operation is started, which is counted and whose task has not run, and it alone is to deliver
a completion. -/
structure Starts (completion : Nat) (request : Network.Request) (s s' : Services) : Prop where
  absent : s.network.inFlight completion = 0
  new : s.network.operations.get? s.network.nextOperation = none
  get? : ∀ other, s'.network.operations.get? other =
    if other = s.network.nextOperation then some ⟨completion, request, .spawned⟩
    else s.network.operations.get? other
  size : s'.network.operations.size = s.network.operations.size + 1
  active : s'.network.active = s.network.active + 1
  handles : s'.network.handles = s.network.handles
  timers : s'.timers = s.timers
  queue : s'.queue = s.queue

/-- What a request has brought that is granted: its closure, and the timer or the operation that the
closure waits for. -/
inductive Grants (s : Services) (closures : Closures F) (s' : Services) (closures' : Closures F)
    (closure : F) : Ask F → Target → Prop where
  | timer {id : Nat} {repeating : Bool} (delay : Option UInt64)
      (hregisters : Registers (.timer id) closure repeating closures closures')
      (hcreates : Creates id repeating s s')
      (hnext : closures'.nextCompletion = closures.nextCompletion) :
      Grants s closures s' closures' closure (.setTimer closure delay repeating) (.timer id)
  | operation {completion : Nat} {request : Network.Request}
      (hnumber : completion = closures.nextCompletion)
      (hregisters : Registers (.completion completion) closure false closures closures')
      (hstarts : Starts completion request s s')
      (hnext : closures'.nextCompletion = completion + 1) :
      Grants s closures s' closures' closure (.start closure request) (.completion completion)

/-- The answer to a request that is granted: a timer is named. -/
def answerOf : Target → Answer
  | .timer id => .id id
  | .completion _ => .done

theorem not_isIssued_timer (s : Services) (closures : Closures F) :
    isIssued s closures (.timer s.timers.nextId) = false :=
  decide_eq_false (Nat.lt_irrefl _)

theorem not_isIssued_completion (s : Services) (closures : Closures F) :
    isIssued s closures (.completion closures.nextCompletion) = false :=
  decide_eq_false (Nat.lt_irrefl _)

theorem get?_of_not_contains {t : Target} (h : closures.contains t = false) :
    closures.table.get? t = none := by
  rw [Closures.contains, Table.contains, Option.isSome_eq_false_iff] at h
  exact Option.isNone_iff_eq_none.1 h

theorem registers_insertTimer {id : Nat} (habsent : closures.contains (.timer id) = false)
    (closure : F) (repeating : Bool) :
    Registers (.timer id) closure repeating closures (closures.insertTimer id closure repeating) where
  absent := habsent
  get? _ := Table.get?_insert _ _ _ _
  size := Table.size_insert _ _ (get?_of_not_contains habsent)

theorem registers_insertCompletion
    (habsent : closures.contains (.completion closures.nextCompletion) = false) (closure : F) :
    Registers (.completion closures.nextCompletion) closure false closures
      (closures.insertCompletion closure).2 where
  absent := habsent
  get? _ := Table.get?_insert _ _ _ _
  size := Table.size_insert _ _ (get?_of_not_contains habsent)

theorem creates_create {delay : Int} {repeating : Bool} {id : Nat} {timers : Timers}
    (hcreate : s.timers.create delay repeating = .ok (id, timers))
    (habsent : s.timers.isLive s.timers.nextId = false) :
    id = s.timers.nextId ∧ Creates id repeating s { s with timers } := by
  rw [Timers.create] at hcreate
  split at hcreate
  · cases hcreate
  · cases hcreate
    have hnone : s.timers.live.get? s.timers.nextId = none :=
      Option.map_eq_none_iff.1 ((Timers.kind?_eq_none_iff _ _).2 habsent)
    exact ⟨rfl, rfl, rfl, habsent, ⟨_, rfl, fun _ => Table.get?_insert _ _ _ _⟩,
      Table.size_insert _ _ hnone, rfl, rfl⟩

theorem starts_start (hnumbered : s.network.Numbered) {completion : Nat}
    (habsent : s.network.inFlight completion = 0) (request : Network.Request) :
    Starts completion request s (s.startOperation request completion) where
  absent := habsent
  new := hnumbered.get?_next
  get? _ := Table.get?_insert _ _ _ _
  size := Table.size_insert _ _ hnumbered.get?_next
  active := rfl
  handles := rfl
  timers := rfl
  queue := rfl

/-- A request that brings a closure is refused and changes nothing, or it is granted under a number
that was not given out. -/
theorem refuses_or_grants (honly : OnlyIssued s closures) (hnumbered : s.network.Numbered)
    {closure : F} (hclosure : request.closure? = some closure) :
    (∃ why, perform request s closures = (.refused why, s, closures)) ∨
    ∃ t, isIssued s closures t = false ∧ (perform request s closures).1 = answerOf t ∧
      Grants s closures (perform request s closures).2.1 (perform request s closures).2.2 closure
        request t := by
  cases request with
  | clearTimer | close => cases hclosure
  | setTimer closure delay repeating =>
      cases hclosure
      obtain ⟨hnone, hsources⟩ := honly _ (not_isIssued_timer s closures)
      rw [sources_timer_eq_zero_iff] at hsources
      simp only [perform]
      cases delayOf delay with
      | error fault => exact .inl ⟨_, rfl⟩
      | ok millis =>
          cases hcreate : s.timers.create millis repeating with
          | error fault =>
              -- a delay that has been converted is never refused, but nothing would change here either
              simp only [Services.createTimer, hcreate]
              exact .inl ⟨_, rfl⟩
          | ok created =>
              obtain ⟨id, timers⟩ := created
              simp only [Services.createTimer, hcreate]
              obtain ⟨rfl, hcreates⟩ := creates_create hcreate hsources
              exact .inr ⟨_, not_isIssued_timer s closures, rfl,
                .timer delay (registers_insertTimer hnone closure repeating) hcreates rfl⟩
  | start closure request =>
      cases hclosure
      obtain ⟨hnone, hsources⟩ := honly _ (not_isIssued_completion s closures)
      simp only [perform]
      split
      · exact .inl ⟨_, rfl⟩
      · exact .inr ⟨_, not_isIssued_completion s closures, rfl,
          .operation rfl (registers_insertCompletion hnone closure)
            (starts_start hnumbered hsources request) rfl⟩

end ScriptHost.Desk
