import ScriptHost.Proofs.Ready.Ledger
import ScriptHost.Proofs.Timer.Liveness

/-!
# The firings of a run

`Timers.run` fires timers up to a limit and keeps no record of it.  `firings` lists what it fires, in
the order in which it does and with the times; every firing of the list is one call of the queue, and the
run makes no other (`queue_run`).

Which timer fires next depends on the timers alone, so the queue plays no part in the list.
-/

namespace ScriptHost

open Ready (Queue)

/-- A timer fires at a time, and its firing is offered to the queue. -/
structure Firing where
  time : Nat
  id : Nat
  deriving DecidableEq

/-- The call of the queue that a firing makes. -/
def Firing.call (f : Firing) : Queue.Call := .enqueue (.firing f.id)

namespace Timers

/-- The timers do not ask what the queue makes of a firing. -/
theorem fst_fireAt (t : Timers) (q q' : Queue) (id time : Nat) :
    (t.fireAt q id time).1 = (t.fireAt q' id time).1 := by
  simp only [fireAt, fire]
  cases t.live.get? id <;> rfl

/-- The firings of a run up to a limit. -/
def firings (t : Timers) (limit : Nat) : List Firing :=
  match _h : t.firstDue limit with
  | none => []
  | some (id, timer) =>
      ⟨max t.now timer.due, id⟩ ::
        (t.fireAt .empty id (max t.now timer.due)).1.firings limit
termination_by t.slack limit
decreasing_by
  have ⟨hmem, hdue⟩ := firstDue_spec _h
  exact slack_fireAt_lt hmem hdue

variable {t : Timers} {limit : Nat}

theorem firings_of_none (hnone : t.firstDue limit = none) : t.firings limit = [] := by
  rw [firings]
  split
  · rfl
  · rename_i hsome
    rw [hnone] at hsome
    cases hsome

theorem firings_of_some {id : Nat} {timer : Timer} (hsome : t.firstDue limit = some (id, timer))
    (q : Queue) :
    t.firings limit =
      ⟨max t.now timer.due, id⟩ :: (t.fireAt q id (max t.now timer.due)).1.firings limit := by
  rw [firings, fst_fireAt t q .empty]
  split
  · rename_i hnone
    rw [hsome] at hnone
    cases hnone
  · rename_i hother
    cases hsome.symm.trans hother
    rfl

theorem run_of_none (hnone : t.firstDue limit = none) (q : Queue) : t.run q limit = (t, q) := by
  rw [run]
  split
  · rfl
  · rename_i hsome
    rw [hnone] at hsome
    cases hsome

theorem run_of_some {id : Nat} {timer : Timer} (hsome : t.firstDue limit = some (id, timer))
    (q : Queue) :
    t.run q limit =
      (t.fireAt q id (max t.now timer.due)).1.run (t.fireAt q id (max t.now timer.due)).2 limit := by
  rw [run]
  split
  · rename_i hnone
    rw [hsome] at hnone
    cases hnone
  · rename_i hother
    cases hsome.symm.trans hother
    rfl

/-- Induction along a run: it stops where nothing is due, or goes on after the first firing. -/
@[elab_as_elim]
theorem run_induction (limit : Nat) {motive : Timers → Queue → Prop}
    (stops : ∀ t q, t.firstDue limit = none → motive t q)
    (fires : ∀ t q id timer, t.firstDue limit = some (id, timer) →
      motive (t.fireAt q id (max t.now timer.due)).1 (t.fireAt q id (max t.now timer.due)).2 →
        motive t q)
    (t : Timers) (q : Queue) : motive t q :=
  run.induct limit motive stops fires t q

/-! ## Which timer fires first -/

theorem earliest_eq_none_iff {entries : List (Nat × Timer)} : earliest entries = none ↔ entries = [] := by
  cases entries with
  | nil => exact iff_of_true rfl rfl
  | cons e rest =>
      rw [earliest]
      refine iff_of_false (fun hnone => ?_) (List.cons_ne_nil e rest)
      split at hnone
      · cases hnone
      · split at hnone <;> cases hnone

/-- No entry is due before the one that fires first. -/
theorem due_le_of_earliest {best : Nat × Timer} : ∀ {entries : List (Nat × Timer)},
    earliest entries = some best → ∀ e ∈ entries, best.2.due ≤ e.2.due
  | [], h, _, _ => by cases h
  | first :: rest, h, e, hmem => by
      rw [earliest] at h
      split at h
      · rename_i hnone
        rw [earliest_eq_none_iff.1 hnone, List.mem_singleton] at hmem
        cases h
        exact Nat.le_of_eq (by rw [hmem])
      · rename_i other hother
        have hrest := due_le_of_earliest hother
        have hfirst : firesBefore other.2 first.2 = true → other.2.due ≤ first.2.due := by
          intro hbefore
          simp only [firesBefore, Bool.or_eq_true, Bool.and_eq_true, decide_eq_true_eq] at hbefore
          omega
        have hlater : firesBefore other.2 first.2 = false → first.2.due ≤ other.2.due := by
          intro hbefore
          simp only [firesBefore, Bool.or_eq_false_iff, decide_eq_false_iff_not] at hbefore
          omega
        split at h
        · rename_i hbefore
          cases h
          rcases List.mem_cons.1 hmem with rfl | hmem
          · exact hfirst hbefore
          · exact hrest e hmem
        · rename_i hbefore
          cases h
          rcases List.mem_cons.1 hmem with rfl | hmem
          · exact Nat.le_refl _
          · exact Nat.le_trans (hlater (Bool.eq_false_iff.2 hbefore)) (hrest e hmem)

theorem due_of_firstDue_eq_none (hnone : t.firstDue limit = none) {id : Nat} {timer : Timer}
    (hget : t.live.get? id = some timer) : limit < timer.due := by
  have hmem := (Table.get?_eq_some_iff _ _ _).1 hget
  refine Nat.lt_of_not_le fun hdue => ?_
  have hin : (id, timer) ∈ t.live.entries.filter (·.2.due ≤ limit) :=
    List.mem_filter.2 ⟨hmem, by simpa using hdue⟩
  rw [earliest_eq_none_iff.1 hnone] at hin
  cases hin

theorem due_le_of_firstDue {first id : Nat} {best timer : Timer}
    (hsome : t.firstDue limit = some (first, best)) (hget : t.live.get? id = some timer) :
    best.due ≤ timer.due := by
  have hmem := (Table.get?_eq_some_iff _ _ _).1 hget
  have hbest := (firstDue_spec hsome).2
  by_cases hdue : timer.due ≤ limit
  · exact due_le_of_earliest hsome (id, timer) (List.mem_filter.2 ⟨hmem, by simpa using hdue⟩)
  · exact Nat.le_trans hbest (by omega)

/-! ## A firing and the run -/

@[simp] theorem now_rearm (t : Timers) (id : Nat) : (t.rearm id).now = t.now := by
  rw [rearm]
  split <;> rfl

@[simp] theorem now_fireAt (t : Timers) (q : Queue) (id time : Nat) :
    (t.fireAt q id time).1.now = time := by
  rw [fireAt, now_rearm, fire]
  split
  · rfl
  · dsimp only
    split <;> rfl

theorem get?_rearm_of_ne (t : Timers) {id j : Nat} (hne : j ≠ id) :
    (t.rearm id).live.get? j = t.live.get? j := by
  rw [rearm]
  split
  · rfl
  · rw [Table.get?_modify, if_neg hne]

/-- A firing leaves all other timers alone. -/
theorem get?_fireAt_of_ne (t : Timers) (q : Queue) {id j : Nat} (hne : j ≠ id) (time : Nat) :
    (t.fireAt q id time).1.live.get? j = t.live.get? j := by
  rw [fireAt, get?_rearm_of_ne _ hne, fire]
  split
  · rfl
  · dsimp only
    split
    · rfl
    · rw [Table.get?_erase, if_neg hne]

/-- A timer that repeats is armed again when it fires. -/
theorem get?_fireAt_of_repeating {id : Nat} {timer : Timer} (hget : t.live.get? id = some timer)
    (hrepeats : timer.repeating = true) (q : Queue) (time : Nat) :
    (t.fireAt q id time).1.live.get? id =
      some { timer with due := nextDue timer time, arming := t.armings } := by
  simp only [fireAt, fire, rearm, hget, hrepeats, if_true, Table.get?_modify, Option.map_some]

@[simp] theorem nextId_run (t : Timers) (q : Queue) (limit : Nat) :
    (t.run q limit).1.nextId = t.nextId := by
  induction t, q using run_induction limit with
  | stops t q hnone => rw [run_of_none hnone]
  | fires t q id timer hsome ih => rw [run_of_some hsome, ih, nextId_fireAt]

/-- No timer comes to life by a run. -/
theorem kind?_run_of_none {id : Nat} (hnone : t.kind? id = none) (q : Queue) (limit : Nat) :
    (t.run q limit).1.kind? id = none := by
  induction t, q using run_induction limit with
  | stops t q hdone => rwa [run_of_none hdone]
  | fires t q other timer hsome ih =>
      rw [run_of_some hsome]
      refine ih ?_
      rw [kind?_fireAt, hnone, ite_self]

/-- The clock does not go beyond the limit. -/
theorem now_run_le (q : Queue) (hle : t.now ≤ limit) : (t.run q limit).1.now ≤ limit := by
  induction t, q using run_induction limit with
  | stops t q hnone => rwa [run_of_none hnone]
  | fires t q id timer hsome ih =>
      rw [run_of_some hsome]
      refine ih ?_
      rw [now_fireAt]
      exact Nat.max_le.2 ⟨hle, (firstDue_spec hsome).2⟩

/-- The clock does not go back. -/
theorem le_now_run (q : Queue) (limit : Nat) : t.now ≤ (t.run q limit).1.now := by
  induction t, q using run_induction limit with
  | stops t q hnone => exact Nat.le_of_eq (by rw [run_of_none hnone])
  | fires t q id timer hsome ih =>
      rw [run_of_some hsome]
      refine Nat.le_trans ?_ ih
      rw [now_fireAt]
      exact Nat.le_max_left _ _

/-- Only live timers fire. -/
theorem isLive_of_firstDue {id : Nat} {timer : Timer} (hsome : t.firstDue limit = some (id, timer)) :
    t.live.get? id = some timer :=
  (Table.get?_eq_some_iff _ _ _).2 (firstDue_spec hsome).1

/-- A run calls the queue with the firings of the list, and with nothing else. -/
theorem queue_run (t : Timers) (q : Queue) (limit : Nat) :
    (t.run q limit).2 = (q.follow ((t.firings limit).map Firing.call)).2 := by
  induction t, q using run_induction limit with
  | stops t q hnone =>
      rw [run_of_none hnone, firings_of_none hnone]
      rfl
  | fires t q id timer hsome ih =>
      have hlive : t.isLive id = true := by
        rw [isLive, Table.contains, isLive_of_firstDue hsome]
        rfl
      rw [run_of_some hsome, ih, firings_of_some hsome q, queue_fireAt, if_pos hlive]
      rfl

end Timers
end ScriptHost
