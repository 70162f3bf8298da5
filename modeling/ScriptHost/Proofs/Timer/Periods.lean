import ScriptHost.Proofs.Timer.Firings

/-!
# Intervals on an exact clock

An interval that was created at a time `start` with a period is due at `start + period`, and each
firing moves that on by at least one period.  While the clock goes from due time to due time it is
moved on by exactly one, counted from the due time and not from the moment of the firing, so nothing
adds up; only when the clock jumps over due times is more than one period passed at once.

`Paced` says where an interval stands after some number of firings.  Any firing of another timer keeps
it, because of all timers that one was due first; a firing of the interval itself takes it to the next
number.
-/

namespace ScriptHost

open Ready (Queue)

namespace Timers

/-- Where an interval stands that has fired so many times, at a given time.  If it is `punctual`, all
its firings have come when they were due. -/
structure Paced (start period count : Nat) (punctual : Prop) (now : Nat) (timer : Timer) : Prop where
  repeating : timer.repeating = true
  delay : timer.delay = period
  reached : start + count * period ≤ now
  ahead : start + (count + 1) * period ≤ timer.due
  exact_due : punctual → timer.due = start + (count + 1) * period
  in_time : punctual → now ≤ timer.due

variable {start period count now : Nat} {punctual : Prop} {timer : Timer}

/-- Time goes on while the interval is not due. -/
theorem Paced.wait (h : Paced start period count punctual now timer) {time : Nat} (hle : now ≤ time)
    (hdue : punctual → time ≤ timer.due) : Paced start period count punctual time timer :=
  { h with reached := Nat.le_trans h.reached hle, in_time := hdue }

/-- The interval fires, when it is due or later. -/
theorem Paced.fire (h : Paced start period count punctual now timer) (arming : Nat) :
    Paced start period (count + 1) punctual (max now timer.due)
      { timer with due := nextDue timer (max now timer.due), arming } := by
  have hnext : start + (count + 1 + 1) * period = start + (count + 1) * period + period := by
    rw [Nat.add_one_mul (count + 1), Nat.add_assoc]
  have hahead := h.ahead
  have hdelay := h.delay
  refine ⟨h.repeating, h.delay, ?_, ?_, fun hpunctual => ?_, fun hpunctual => ?_⟩
  · exact Nat.le_trans hahead (Nat.le_max_right _ _)
  · show start + (count + 1 + 1) * period ≤ nextDue timer (max now timer.due)
    rw [hnext, nextDue]
    split <;> omega
  · -- the firing comes when it is due, so the next one is due a period later
    have hdue := h.exact_due hpunctual
    have htime := Nat.max_eq_right (h.in_time hpunctual)
    show nextDue timer (max now timer.due) = _
    rw [nextDue, htime, if_neg (by omega), hdue, hdelay, hnext]
  · have htime := Nat.max_eq_right (h.in_time hpunctual)
    show max now timer.due ≤ nextDue timer (max now timer.due)
    rw [nextDue, htime, if_neg (by omega)]
    omega

/-- A time at which the next firing may come: not before it is due, and then if it is punctual. -/
def OnPace (start period count : Nat) (punctual : Prop) (time : Nat) : Prop :=
  start + (count + 1) * period ≤ time ∧ (punctual → time = start + (count + 1) * period)

theorem Paced.onPace (h : Paced start period count punctual now timer) :
    OnPace start period count punctual (max now timer.due) := by
  have hahead := h.ahead
  refine ⟨Nat.le_trans hahead (Nat.le_max_right _ _), fun hpunctual => ?_⟩
  rw [Nat.max_eq_right (h.in_time hpunctual), h.exact_due hpunctual]

/-- The times at which a timer fires. -/
def timesOf (id : Nat) (firings : List Firing) : List Nat :=
  (firings.filter (·.id = id)).map (·.time)

theorem timesOf_append (id : Nat) (first second : List Firing) :
    timesOf id (first ++ second) = timesOf id first ++ timesOf id second := by
  rw [timesOf, List.filter_append, List.map_append]
  rfl

/-- Every time of a list is one at which the firing of its place may come. -/
def AllOnPace (start period count : Nat) (punctual : Prop) (times : List Nat) : Prop :=
  ∀ k time, times[k]? = some time → OnPace start period (count + k) punctual time

theorem allOnPace_nil (start period count : Nat) (punctual : Prop) :
    AllOnPace start period count punctual [] := nofun

theorem AllOnPace.cons {time : Nat} {times : List Nat} (h : OnPace start period count punctual time)
    (hrest : AllOnPace start period (count + 1) punctual times) :
    AllOnPace start period count punctual (time :: times) := by
  intro k other hget
  cases k with
  | zero =>
      cases hget
      exact h
  | succ k =>
      have hlater := hrest k other hget
      rwa [Nat.add_assoc, Nat.add_comm 1 k] at hlater

theorem AllOnPace.append {first second : List Nat} (h : AllOnPace start period count punctual first)
    (hrest : AllOnPace start period (count + first.length) punctual second) :
    AllOnPace start period count punctual (first ++ second) := by
  induction first generalizing count with
  | nil => exact hrest
  | cons time first ih =>
      refine .cons (h 0 time rfl) (ih ?_ ?_)
      · intro k other hget
        have hlater := h (k + 1) other hget
        rwa [Nat.add_comm k 1, ← Nat.add_assoc] at hlater
      · rwa [List.length_cons, Nat.add_comm first.length 1, ← Nat.add_assoc] at hrest

/-- The times of an interval that was never overdue. -/
theorem AllOnPace.eq_map {times : List Nat} (h : AllOnPace start period 0 punctual times)
    (hpunctual : punctual) :
    times = (List.range times.length).map fun k => start + (k + 1) * period := by
  refine List.ext_getElem? fun k => ?_
  rw [List.getElem?_map]
  by_cases hk : k < times.length
  · have hget := List.getElem?_eq_getElem hk
    have hexact := (h k _ hget).2 hpunctual
    rw [hget, List.getElem?_range hk, hexact, Nat.zero_add]
    rfl
  · have hbeyond := Nat.le_of_not_lt hk
    rw [List.getElem?_eq_none hbeyond, List.getElem?_eq_none (by rwa [List.length_range])]
    rfl

/-! ## A run -/

/-- After a run the interval has fired at the right times, and it is due beyond the limit. -/
theorem Paced.run (t : Timers) (q : Queue) (limit id : Nat) : ∀ {count : Nat} {timer : Timer},
    t.live.get? id = some timer → Paced start period count punctual t.now timer →
    ∃ timer', (t.run q limit).1.live.get? id = some timer' ∧
      Paced start period (count + (timesOf id (t.firings limit)).length) punctual
        (t.run q limit).1.now timer' ∧
      limit < timer'.due ∧ AllOnPace start period count punctual (timesOf id (t.firings limit)) := by
  induction t, q using run_induction limit with
  | stops t q hnone =>
      intro count timer hget h
      rw [run_of_none hnone, firings_of_none hnone]
      exact ⟨timer, hget, h, due_of_firstDue_eq_none hnone hget, allOnPace_nil _ _ _ _⟩
  | fires t q first best hsome ih =>
      intro count timer hget h
      rw [run_of_some hsome]
      have hnow := now_fireAt t q first (max t.now best.due)
      by_cases hfirst : first = id
      · -- the interval fires itself, and is armed again
        subst hfirst
        obtain rfl : timer = best := Option.some.inj (hget.symm.trans (isLive_of_firstDue hsome))
        have hagain := get?_fireAt_of_repeating hget h.repeating q (max t.now timer.due)
        have htimes : timesOf first (t.firings limit) = max t.now timer.due ::
            timesOf first ((t.fireAt q first (max t.now timer.due)).1.firings limit) := by
          rw [firings_of_some hsome q]
          simp [timesOf]
        have hfired : Paced start period (count + 1) punctual
            (t.fireAt q first (max t.now timer.due)).1.now
            { timer with due := nextDue timer (max t.now timer.due), arming := t.armings } := by
          rw [hnow]
          exact h.fire t.armings
        obtain ⟨timer', hget', hpaced, hdue, hall⟩ := ih hagain hfired
        refine ⟨timer', hget', ?_, hdue, htimes ▸ .cons h.onPace hall⟩
        rwa [htimes, List.length_cons, Nat.add_comm _ 1, ← Nat.add_assoc]
      · have hsame := get?_fireAt_of_ne t q (Ne.symm hfirst) (max t.now best.due)
        have hwaits := h.wait (Nat.le_max_left t.now best.due) fun hpunctual =>
          Nat.max_le.2 ⟨h.in_time hpunctual, due_le_of_firstDue hsome hget⟩
        have htimes : timesOf id (t.firings limit) =
            timesOf id ((t.fireAt q first (max t.now best.due)).1.firings limit) := by
          rw [firings_of_some hsome q]
          simp [timesOf, hfirst]
        rw [htimes]
        exact ih (hsame.trans hget) (hnow.symm ▸ hwaits)

/-! ## A creation -/

theorem get?_create {t u : Timers} {delay : Int} {repeating : Bool} {id j : Nat}
    (hcreate : t.create delay repeating = .ok (id, u)) (hne : j ≠ id) :
    u.live.get? j = t.live.get? j := by
  rw [create] at hcreate
  split at hcreate
  · cases hcreate
  · cases hcreate
    rw [Table.get?_insert, if_neg hne]

theorem now_create {t u : Timers} {delay : Int} {repeating : Bool} {id : Nat}
    (hcreate : t.create delay repeating = .ok (id, u)) : u.now = t.now := by
  rw [create] at hcreate
  split at hcreate
  · cases hcreate
  · cases hcreate
    rfl

/-- A new interval has not fired, and is first due when its period is over. -/
theorem paced_of_create {t u : Timers} {delay : Int} {id : Nat}
    (hcreate : t.create delay true = .ok (id, u)) (punctual : Prop) :
    ∃ timer, u.live.get? id = some timer ∧
      Paced t.now (max 1 delay.toNat) 0 punctual u.now timer ∧ u.now < timer.due := by
  rw [now_create hcreate]
  rw [create] at hcreate
  split at hcreate
  · cases hcreate
  · cases hcreate
    have hperiod : effectiveDelay delay.toNat true = max 1 delay.toNat := rfl
    refine ⟨_, (Table.get?_insert _ _ _ _).trans (if_pos rfl), ⟨rfl, hperiod, ?_, ?_, ?_, ?_⟩, ?_⟩
    · omega
    · show _ ≤ t.now + effectiveDelay delay.toNat true
      omega
    · intro _
      show t.now + effectiveDelay delay.toNat true = _
      omega
    · exact fun _ => Nat.le_add_right _ _
    · show t.now < t.now + effectiveDelay delay.toNat true
      omega

end Timers

end ScriptHost
