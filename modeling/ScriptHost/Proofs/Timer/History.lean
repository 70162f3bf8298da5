import ScriptHost.Proofs.Ready.Deeds
import ScriptHost.Proofs.Timer.Clockwork

/-!
# The history of timers on an exact clock

`Clockwork.log` is the history of a run: every arming of a timer, every firing with the timer as it was
armed, and everything else that is done to the queue.  The queue is what the deeds in the log make of it
(`queue_log`), so the firings in the log are all that timers offer to it.

What can happen to timers is said once.  A `Move` is one thing that happens, with its entries in the log,
and every run is a chain of moves (`moves_log`); what holds over runs is proved of one move.
-/

namespace ScriptHost

open Ready (Queue)
open Ready.Queue (Deed)

/-- A timer fires, as it was armed. -/
structure Alarm where
  firing : Firing
  timer : Timer

/-- A timer fires before another one if it is due earlier or, at the same time, was armed earlier. -/
def Timer.Precedes (a b : Timer) : Prop := a.due < b.due ∨ a.due = b.due ∧ a.arming < b.arming

namespace Timers

theorem firesBefore_iff (a b : Timer) : firesBefore a b = true ↔ a.Precedes b := by
  simp only [firesBefore, Timer.Precedes, Bool.or_eq_true, Bool.and_eq_true, decide_eq_true_eq]

/-- An entry of a history. -/
inductive Entry where
  | armed (id : Nat) (timer : Timer)
  | fired (a : Alarm)
  /-- Something else is done to the queue. -/
  | did (d : Deed)

namespace Entry

/-- What is done to the queue. -/
def deed? : Entry → Option Deed
  | armed .. => none
  | fired a => some (.call a.firing.call)
  | did d => some d

def alarm? : Entry → Option Alarm
  | fired a => some a
  | armed .. | did _ => none

def isArming : Entry → Bool
  | armed .. => true
  | fired _ | did _ => false

end Entry

/-- A timer after it has fired at a time and has been armed again. -/
def again (t : Timers) (timer : Timer) (time : Nat) : Timer :=
  { timer with due := nextDue timer time, arming := t.armings }

/-- The timers after one of them has fired at a time, without it. -/
def without (t : Timers) (id time : Nat) : Timers := { t with now := time, live := t.live.erase id }

theorem get?_without (t : Timers) (id time j : Nat) :
    (t.without id time).live.get? j = if j = id then none else t.live.get? j := Table.get?_erase _ _ _

/-- What is left was live before. -/
theorem get?_of_without {t : Timers} {id time j : Nat} {other : Timer}
    (hget : (t.without id time).live.get? j = some other) : t.live.get? j = some other ∧ j ≠ id := by
  rw [get?_without] at hget
  split at hget
  · cases hget
  · rename_i hj
    exact ⟨hget, hj⟩

/-- Where one timer has been armed, any live one is that or was live before. -/
theorem get?_cases {t u : Timers} {id : Nat} {timer : Timer}
    (hlive : ∀ j, u.live.get? j = if j = id then some timer else t.live.get? j) {j : Nat} {other : Timer}
    (hget : u.live.get? j = some other) :
    (t.live.get? j = some other ∧ j ≠ id) ∨ (j = id ∧ other = timer) := by
  rw [hlive] at hget
  split at hget
  · rename_i hj
    exact .inr ⟨hj, (Option.some.inj hget).symm⟩
  · rename_i hj
    exact .inl ⟨hget, hj⟩

/-- The entries of a firing. -/
def firingEntries (t : Timers) (id : Nat) (timer : Timer) (time : Nat) : List Entry :=
  .fired ⟨⟨time, id⟩, timer⟩ :: if timer.repeating then [.armed id (t.again timer time)] else []

/-- The history of a run up to a limit. -/
def history (t : Timers) (limit : Nat) : List Entry :=
  match _h : t.firstDue limit with
  | none => []
  | some (id, timer) =>
      t.firingEntries id timer (max t.now timer.due) ++
        (t.fireAt .empty id (max t.now timer.due)).1.history limit
termination_by t.slack limit
decreasing_by
  have ⟨hmem, hdue⟩ := firstDue_spec _h
  exact slack_fireAt_lt hmem hdue

variable {t : Timers} {limit : Nat}

theorem history_of_none (hnone : t.firstDue limit = none) : t.history limit = [] := by
  rw [history]
  split
  · rfl
  · rename_i hsome
    rw [hnone] at hsome
    cases hsome

theorem history_of_some {id : Nat} {timer : Timer} (hsome : t.firstDue limit = some (id, timer))
    (q : Queue) :
    t.history limit = t.firingEntries id timer (max t.now timer.due) ++
      (t.fireAt q id (max t.now timer.due)).1.history limit := by
  rw [history, fst_fireAt t q .empty]
  split
  · rename_i hnone
    rw [hsome] at hnone
    cases hnone
  · rename_i hother
    cases hsome.symm.trans hother
    rfl

/-- What a run does to the queue are its firings. -/
theorem filterMap_deed?_history (t : Timers) (limit : Nat) :
    (t.history limit).filterMap Entry.deed? = (t.firings limit).map (Deed.call ·.call) := by
  induction t, Queue.empty using run_induction limit with
  | stops t q hnone => rw [history_of_none hnone, firings_of_none hnone]; rfl
  | fires t q id timer hsome ih =>
      rw [history_of_some hsome q, firings_of_some hsome q, List.filterMap_append, ih, List.map_cons]
      rw [firingEntries]
      cases timer.repeating <;> rfl

/-! ## Moves -/

/-- One thing that happens to timers, with its entries.  Of all live timers none fires before the one that
fires. -/
inductive Move : Timers → List Entry → Timers → Prop where
  | pass {t u : Timers}
      (hkept : ∀ id timer, u.live.get? id = some timer → t.live.get? id = some timer)
      (hnow : t.now ≤ u.now) (harmings : u.armings = t.armings) (hnext : u.nextId = t.nextId) :
      Move t [] u
  | did (t : Timers) (d : Deed) : Move t [.did d] t
  | create {t u : Timers} {timer : Timer}
      (hlive : ∀ id, u.live.get? id = if id = t.nextId then some timer else t.live.get? id)
      (hdue : timer.due = t.now + timer.delay) (harming : timer.arming = t.armings)
      (hnow : u.now = t.now) (harmings : u.armings = t.armings + 1) (hnext : u.nextId = t.nextId + 1) :
      Move t [.armed t.nextId timer] u
  | fire {t : Timers} {id : Nat} {timer : Timer} (hget : t.live.get? id = some timer)
      (honce : timer.repeating = false)
      (hfirst : ∀ j other, t.live.get? j = some other → ¬other.Precedes timer) :
      Move t [.fired ⟨⟨max t.now timer.due, id⟩, timer⟩] (t.without id (max t.now timer.due))
  | refire {t u : Timers} {id : Nat} {timer : Timer} (hget : t.live.get? id = some timer)
      (hrepeats : timer.repeating = true)
      (hfirst : ∀ j other, t.live.get? j = some other → ¬other.Precedes timer)
      (hlive : ∀ j, u.live.get? j =
        if j = id then some (t.again timer (max t.now timer.due)) else t.live.get? j)
      (hnow : u.now = max t.now timer.due) (harmings : u.armings = t.armings + 1)
      (hnext : u.nextId = t.nextId) :
      Move t [.fired ⟨⟨max t.now timer.due, id⟩, timer⟩,
        .armed id (t.again timer (max t.now timer.due))] u

/-- One move after the other. -/
inductive Moves : Timers → List Entry → Timers → Prop where
  | nil (t : Timers) : Moves t [] t
  | cons {t u v : Timers} {first rest : List Entry} (h : Move t first u) (hrest : Moves u rest v) :
      Moves t (first ++ rest) v

namespace Moves

variable {t u v : Timers} {first second : List Entry}

theorem single {entries : List Entry} (h : Move t entries u) : Moves t entries u := by
  have hchain := Moves.cons h (.nil u)
  rwa [List.append_nil] at hchain

theorem append (h : Moves t first u) (h' : Moves u second v) : Moves t (first ++ second) v := by
  induction h with
  | nil => exact h'
  | cons hmove _ ih =>
      rw [List.append_assoc]
      exact .cons hmove (ih h')

/-- What a move preserves of a log and of the timers is preserved by a chain of moves. -/
theorem preserve {motive : List Entry → Timers → Prop}
    (hmove : ∀ {log t entries u}, motive log t → Move t entries u → motive (log ++ entries) u)
    {log entries : List Entry} (h : Moves t entries u) (hlog : motive log t) :
    motive (log ++ entries) u := by
  induction h generalizing log with
  | nil => rwa [List.append_nil]
  | cons hfirst _ ih =>
      rw [← List.append_assoc]
      exact ih (hmove hlog hfirst)

end Moves

/-! ## Which moves a run makes -/

/-- No entry comes before the one that fires first. -/
theorem not_precedes_earliest {best : Nat × Timer} : ∀ {entries : List (Nat × Timer)},
    earliest entries = some best → ∀ e ∈ entries, ¬e.2.Precedes best.2
  | [], h, _, _ => by cases h
  | first :: rest, h, e, hmem => by
      rw [earliest] at h
      split at h
      · rename_i hnone
        rw [earliest_eq_none_iff.1 hnone, List.mem_singleton] at hmem
        cases h
        rw [hmem, Timer.Precedes]
        omega
      · rename_i other hother
        have hrest := not_precedes_earliest hother
        split at h <;> rename_i hbefore <;> rw [firesBefore_iff, Timer.Precedes] at hbefore <;> cases h <;>
          rcases List.mem_cons.1 hmem with rfl | hmem
        · rw [Timer.Precedes]
          omega
        · exact hrest e hmem
        · rw [Timer.Precedes]
          omega
        · have hnot := hrest e hmem
          rw [Timer.Precedes] at hnot ⊢
          omega

theorem not_precedes_firstDue {id j : Nat} {timer other : Timer}
    (hsome : t.firstDue limit = some (id, timer)) (hget : t.live.get? j = some other) :
    ¬other.Precedes timer := by
  have hmem := (Table.get?_eq_some_iff _ _ _).1 hget
  by_cases hdue : other.due ≤ limit
  · exact not_precedes_earliest hsome (j, other) (List.mem_filter.2 ⟨hmem, by simpa using hdue⟩)
  · have hbest : timer.due ≤ limit := (firstDue_spec hsome).2
    rw [Timer.Precedes]
    omega

theorem fst_fireAt_of_once {id : Nat} {timer : Timer} (hget : t.live.get? id = some timer)
    (honce : timer.repeating = false) (q : Queue) (time : Nat) :
    (t.fireAt q id time).1 = t.without id time := by
  have hgone : (t.live.erase id).get? id = none := by rw [Table.get?_erase, if_pos rfl]
  simp only [fireAt, fire, rearm, hget, honce, Bool.false_eq_true, if_false, hgone, without]

theorem fst_fireAt_of_repeating {id : Nat} {timer : Timer} (hget : t.live.get? id = some timer)
    (hrepeats : timer.repeating = true) (q : Queue) (time : Nat) :
    (t.fireAt q id time).1.armings = t.armings + 1 ∧
      ∀ j, (t.fireAt q id time).1.live.get? j =
        if j = id then some (t.again timer time) else t.live.get? j := by
  refine ⟨by simp only [fireAt, fire, rearm, hget, hrepeats, if_true], fun j => ?_⟩
  by_cases hj : j = id
  · rw [hj, if_pos rfl]
    exact get?_fireAt_of_repeating hget hrepeats q time
  · rw [if_neg hj]
    exact get?_fireAt_of_ne t q hj time

theorem move_fireAt {id : Nat} {timer : Timer} (hsome : t.firstDue limit = some (id, timer))
    (q : Queue) :
    Move t (t.firingEntries id timer (max t.now timer.due))
      (t.fireAt q id (max t.now timer.due)).1 := by
  have hget := isLive_of_firstDue hsome
  have hfirst : ∀ j other, t.live.get? j = some other → ¬other.Precedes timer :=
    fun _ _ => not_precedes_firstDue hsome
  rw [firingEntries]
  cases hrep : timer.repeating with
  | false =>
      rw [fst_fireAt_of_once hget hrep]
      exact .fire hget hrep hfirst
  | true =>
      obtain ⟨harmings, hlive⟩ := fst_fireAt_of_repeating hget hrep q (max t.now timer.due)
      exact .refire hget hrep hfirst hlive (now_fireAt ..) harmings (nextId_fireAt ..)

theorem moves_did (t : Timers) (deeds : List Deed) : Moves t (deeds.map .did) t := by
  induction deeds with
  | nil => exact .nil t
  | cons d deeds ih => exact .cons (.did t d) ih

/-- What is live after a creation. -/
theorem exists_created {t u : Timers} {delay : Int} {repeating : Bool} {id : Nat}
    (hcreate : t.create delay repeating = .ok (id, u)) :
    ∃ timer : Timer, id = t.nextId ∧
      (∀ j, u.live.get? j = if j = t.nextId then some timer else t.live.get? j) ∧
      timer.due = t.now + timer.delay ∧ timer.arming = t.armings ∧ u.now = t.now ∧
      u.armings = t.armings + 1 ∧ u.nextId = t.nextId + 1 := by
  rw [create] at hcreate
  split at hcreate
  · cases hcreate
  · cases hcreate
    exact ⟨_, rfl, fun j => Table.get?_insert _ _ _ j, rfl, rfl, rfl, rfl, rfl⟩

theorem moves_run (t : Timers) (q : Queue) (limit : Nat) :
    Moves t (t.history limit) (t.run q limit).1 := by
  induction t, q using run_induction limit with
  | stops t q hnone =>
      rw [history_of_none hnone, run_of_none hnone]
      exact .nil t
  | fires t q id timer hsome ih =>
      rw [history_of_some hsome q, run_of_some hsome]
      exact .cons (move_fireAt hsome q) ih

end Timers

/-! ## The log of a run -/

namespace Clockwork

open Timers

/-- What can be done, the token of the queue included. -/
inductive Step where
  | act (a : Act)
  | takeToken

def step (w : Clockwork) : Step → Clockwork
  | .act a => w.act a
  | .takeToken => { w with queue := w.queue.takeToken.2 }

/-- One step after the other. -/
def walk (w : Clockwork) (steps : List Step) : Clockwork := steps.foldl step w

/-- What comes of an act. -/
def entries (w : Clockwork) : Act → List Entry
  | .create delay repeating =>
      match w.timers.create delay repeating with
      | .ok (id, timers) => (timers.live.get? id).toList.map (.armed id)
      | .error _ => []
  | .settle => w.timers.history w.timers.now
  | .sleep millis => w.timers.history (w.timers.now + millis)
  | .jump millis =>
      { w.timers with now := w.timers.now + millis }.history (w.timers.now + millis)
  | a => (w.calls a).map fun c => .did (.call c)

def stepEntries (w : Clockwork) : Step → List Entry
  | .act a => w.entries a
  | .takeToken => [.did .takeToken]

/-- All that happens. -/
def log : Clockwork → List Step → List Entry
  | _, [] => []
  | w, s :: steps => w.stepEntries s ++ (w.step s).log steps

theorem filterMap_deed?_entries (w : Clockwork) (a : Act) :
    (w.entries a).filterMap Entry.deed? = (w.calls a).map .call := by
  cases a with
  | create delay repeating =>
      rw [entries]
      split
      · rw [List.filterMap_map]
        exact List.filterMap_eq_nil_iff.2 fun _ _ => rfl
      · rfl
  | cancel | enqueue | drain | discard | clear => rfl
  | cancelAll =>
      show ((w.calls .cancelAll).map fun c => Entry.did (.call c)).filterMap Entry.deed? = _
      rw [List.filterMap_map]
      exact congrFun List.filterMap_eq_map _
  | settle | sleep | jump =>
      rw [entries, filterMap_deed?_history, calls, List.map_map]
      rfl

theorem queue_step (w : Clockwork) (s : Step) :
    (w.step s).queue = (w.queue.performAll ((w.stepEntries s).filterMap Entry.deed?)).2 := by
  cases s with
  | takeToken => rfl
  | act a =>
      rw [stepEntries, filterMap_deed?_entries, Queue.performAll_calls]
      exact w.queue_act a

/-- The deeds in the log are all that happens to the queue. -/
theorem queue_log (steps : List Step) : ∀ w : Clockwork,
    (w.walk steps).queue = (w.queue.performAll ((w.log steps).filterMap Entry.deed?)).2 := by
  induction steps with
  | nil => exact fun _ => rfl
  | cons s steps ih =>
      intro w
      rw [log, List.filterMap_append, Queue.performAll_append, ← queue_step]
      exact ih (w.step s)

theorem moves_act (w : Clockwork) (a : Act) : Moves w.timers (w.entries a) (w.act a).timers := by
  cases a with
  | create delay repeating =>
      rw [entries, act]
      cases hcreate : w.timers.create delay repeating with
      | error => exact .nil w.timers
      | ok made =>
          obtain ⟨timer, hid, hlive, hdue, harming, hnow, harmings, hnext⟩ := exists_created hcreate
          dsimp only
          rw [hlive, if_pos hid, hid]
          exact .single (.create hlive hdue harming hnow harmings hnext)
  | cancel id =>
      refine (moves_did w.timers [.call (.discard id)]).append (.single (.pass ?_ (Nat.le_refl _) rfl rfl))
      have hremoved : (w.act (.cancel id)).timers = w.timers.without id w.timers.now := rfl
      intro j timer hget
      rw [hremoved] at hget
      exact (get?_of_without hget).1
  | cancelAll =>
      have hdid := moves_did w.timers ((w.calls .cancelAll).map .call)
      rw [List.map_map] at hdid
      rw [← List.append_nil (w.entries .cancelAll)]
      refine hdid.append (.single (.pass (fun j timer hget => ?_) (Nat.le_refl _) rfl rfl))
      cases hget
  | enqueue c => exact moves_did w.timers [.call (.enqueue c)]
  | drain => exact moves_did w.timers [.call .drain]
  | discard id => exact moves_did w.timers [.call (.discard id)]
  | clear => exact moves_did w.timers [.call .clear]
  | settle => exact moves_run w.timers w.queue w.timers.now
  | sleep millis =>
      rw [← List.append_nil (w.entries (.sleep millis))]
      exact (moves_run w.timers w.queue _).append
        (.single (.pass (fun _ _ hget => hget) (now_run_le w.queue (Nat.le_add_right _ _)) rfl rfl))
  | jump millis =>
      let later : Timers := { w.timers with now := w.timers.now + millis }
      have hpass : Move w.timers [] later := .pass (fun _ _ hget => hget) (Nat.le_add_right _ _) rfl rfl
      exact .cons hpass (moves_run later w.queue _)

theorem moves_step (w : Clockwork) (s : Step) : Moves w.timers (w.stepEntries s) (w.step s).timers := by
  cases s with
  | act a => exact w.moves_act a
  | takeToken => exact moves_did w.timers [.takeToken]

theorem moves_log (steps : List Step) : ∀ w : Clockwork,
    Moves w.timers (w.log steps) (w.walk steps).timers := by
  induction steps with
  | nil => exact fun w => .nil w.timers
  | cons s steps ih => exact fun w => (w.moves_step s).append (ih (w.step s))

end Clockwork
end ScriptHost
