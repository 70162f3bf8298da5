import ScriptHost.Proofs.Timer.History

/-!
# Waiting in parts

A run up to a limit fires the timers that are due by then, in their order, and a run to a greater limit begins
with the same firings (`run_run`).  What is left is due after the first limit, so it makes no difference
whether the clock stops there or at the last firing before it (`setClock_run_of_ahead`).  Waiting is therefore
the same in one part or in two, and nothing that happens can tell where it was divided (`sleep_add`).
-/

namespace ScriptHost.Timers

open Ready (Queue)

variable {t : Timers} {limit limit' : Nat}

/-- Set the clock. -/
def setClock (world : Timers × Queue) (time : Nat) : Timers × Queue :=
  ({ world.1 with now := time }, world.2)

theorem sleep_eq (t : Timers) (q : Queue) (millis : Nat) :
    t.sleep q millis = setClock (t.run q (t.now + millis)) (t.now + millis) := rfl

/-! ## A greater limit -/

theorem due_le_of_earliest_filter {entries : List (Nat × Timer)} {best : Nat × Timer}
    (h : earliest (entries.filter (·.2.due ≤ limit)) = some best) : best.2.due ≤ limit := by
  simpa using (List.mem_filter.1 (earliest_mem h)).2

/-- The entry that fires first by a limit fires first by any greater one. -/
theorem earliest_filter_of_le (hle : limit ≤ limit') : ∀ {entries : List (Nat × Timer)}
    {best : Nat × Timer}, earliest (entries.filter (·.2.due ≤ limit)) = some best →
      earliest (entries.filter (·.2.due ≤ limit')) = some best
  | [], _, h => by cases h
  | e :: rest, best, h => by
      by_cases hdue : e.2.due ≤ limit
      · rw [List.filter_cons_of_pos (by simpa using hdue), earliest] at h
        rw [List.filter_cons_of_pos (by simpa using Nat.le_trans hdue hle), earliest]
        cases hrest : earliest (rest.filter (·.2.due ≤ limit)) with
        | some other =>
            rw [earliest_filter_of_le hle hrest]
            rwa [hrest] at h
        | none =>
            -- whatever else is due by the greater limit is due later
            rw [hrest] at h
            cases hmore : earliest (rest.filter (·.2.due ≤ limit')) with
            | none => exact h
            | some other =>
                have hmem := (List.mem_filter.1 (earliest_mem hmore)).1
                have hlater : ¬other.2.due ≤ limit := fun hdue' => by
                  have hin : other ∈ rest.filter (·.2.due ≤ limit) :=
                    List.mem_filter.2 ⟨hmem, by simpa using hdue'⟩
                  rw [earliest_eq_none_iff.1 hrest] at hin
                  cases hin
                have hbefore : ¬firesBefore other.2 e.2 = true := by
                  rw [firesBefore_iff, Timer.Precedes]
                  omega
                dsimp only
                rw [if_neg hbefore]
                exact h
      · rw [List.filter_cons_of_neg (by simpa using hdue)] at h
        have hrest := earliest_filter_of_le hle h
        by_cases hdue' : e.2.due ≤ limit'
        · have hbest := due_le_of_earliest_filter h
          have hbefore : firesBefore best.2 e.2 = true := by
            rw [firesBefore_iff, Timer.Precedes]
            omega
          rw [List.filter_cons_of_pos (by simpa using hdue'), earliest, hrest]
          dsimp only
          rw [if_pos hbefore]
        · rw [List.filter_cons_of_neg (by simpa using hdue')]
          exact hrest

theorem firstDue_of_le (hle : limit ≤ limit') {e : Nat × Timer} (hsome : t.firstDue limit = some e) :
    t.firstDue limit' = some e := earliest_filter_of_le hle hsome

/-- A run goes on where one to a smaller limit has stopped. -/
theorem run_run (t : Timers) (q : Queue) (hle : limit ≤ limit') :
    (t.run q limit).1.run (t.run q limit).2 limit' = t.run q limit' := by
  induction t, q using run_induction limit with
  | stops t q hnone => rw [run_of_none hnone]
  | fires t q id timer hsome ih => rw [run_of_some hsome, ih, run_of_some (firstDue_of_le hle hsome)]

/-- The firings of a run are those of one to a smaller limit, and then what follows. -/
theorem firings_run (t : Timers) (q : Queue) (hle : limit ≤ limit') :
    t.firings limit ++ (t.run q limit).1.firings limit' = t.firings limit' := by
  induction t, q using run_induction limit with
  | stops t q hnone =>
      rw [run_of_none hnone, firings_of_none hnone]
      rfl
  | fires t q id timer hsome ih =>
      rw [run_of_some hsome, firings_of_some hsome q, List.cons_append, ih,
        firings_of_some (firstDue_of_le hle hsome) q]

/-- After a run nothing is due by its limit. -/
theorem firstDue_run (t : Timers) (q : Queue) (limit : Nat) : (t.run q limit).1.firstDue limit = none := by
  induction t, q using run_induction limit with
  | stops t q hnone => rwa [run_of_none hnone]
  | fires t q id timer hsome ih => rwa [run_of_some hsome]

/-! ## Where the clock stops -/

section

variable {time : Nat} (hnow : t.now ≤ time)
  (hahead : ∀ id timer, t.live.get? id = some timer → time ≤ timer.due)

include hnow hahead

/-- While nothing is due the clock may go on: the first firing comes when it is due all the same. -/
theorem fireAt_of_ahead {id : Nat} {timer : Timer} (hsome : t.firstDue limit = some (id, timer))
    (q : Queue) :
    ({ t with now := time } : Timers).fireAt q id (max time timer.due) =
      t.fireAt q id (max t.now timer.due) := by
  have hdue := hahead id timer (isLive_of_firstDue hsome)
  rw [Nat.max_eq_right hdue, Nat.max_eq_right (Nat.le_trans hnow hdue)]
  rfl

theorem setClock_run_of_ahead (q : Queue) (limit stop : Nat) :
    setClock (({ t with now := time } : Timers).run q limit) stop = setClock (t.run q limit) stop := by
  cases hfirst : t.firstDue limit with
  | none => rw [run_of_none hfirst, run_of_none (t := { t with now := time }) hfirst]; rfl
  | some e =>
      rw [run_of_some hfirst, run_of_some (t := { t with now := time }) hfirst,
        fireAt_of_ahead hnow hahead hfirst]

theorem firings_of_ahead (limit : Nat) :
    ({ t with now := time } : Timers).firings limit = t.firings limit := by
  cases hfirst : t.firstDue limit with
  | none => rw [firings_of_none hfirst, firings_of_none (t := { t with now := time }) hfirst]
  | some e =>
      have hdue := hahead e.1 e.2 (isLive_of_firstDue hfirst)
      rw [firings_of_some hfirst .empty, firings_of_some (t := { t with now := time }) hfirst .empty,
        fireAt_of_ahead hnow hahead hfirst]
      dsimp only
      rw [Nat.max_eq_right hdue, Nat.max_eq_right (Nat.le_trans hnow hdue)]

end

/-- Sleeping up to where something is due is jumping there. -/
theorem sleep_eq_jump (t : Timers) (q : Queue) {millis : Nat}
    (hahead : ∀ id timer, t.live.get? id = some timer → t.now + millis ≤ timer.due) :
    t.sleep q millis = t.jump q millis := by
  rw [sleep_eq, ← setClock_run_of_ahead (Nat.le_add_right _ _) hahead, jump, Clockwork.settle_eq]
  rfl

/-- **Waiting in two parts is waiting once.**  Whatever the timers and the queue, sleeping for some time and
then for some more leaves the same timers, due at the same times and armed in the same order, and the same
queue with the same counts, as sleeping for both times at once.  The firings are the same, one by one, and
after the first part nothing is left to settle. -/
theorem sleep_add (t : Timers) (q : Queue) (a b : Nat) :
    let first := t.sleep q a
    first.1.sleep first.2 b = t.sleep q (a + b) ∧
    t.firings (t.now + a) ++ first.1.firings (t.now + a + b) = t.firings (t.now + (a + b)) ∧
    first.1.settle first.2 = first := by
  intro first
  have hfirst : first = setClock (t.run q (t.now + a)) (t.now + a) := sleep_eq t q a
  have hnow : (t.run q (t.now + a)).1.now ≤ t.now + a := now_run_le q (Nat.le_add_right _ _)
  have hnone := firstDue_run t q (t.now + a)
  have hahead : ∀ id timer, (t.run q (t.now + a)).1.live.get? id = some timer →
      t.now + a ≤ timer.due := fun id timer hget => Nat.le_of_lt (due_of_firstDue_eq_none hnone hget)
  have hle : t.now + a ≤ t.now + a + b := Nat.le_add_right _ _
  refine ⟨?_, ?_, ?_⟩
  · calc first.1.sleep first.2 b
      _ = setClock (first.1.run first.2 (t.now + a + b)) (t.now + a + b) := by rw [hfirst]; rfl
      _ = setClock ((t.run q (t.now + a)).1.run (t.run q (t.now + a)).2 (t.now + a + b))
            (t.now + a + b) := by
          rw [hfirst]
          exact setClock_run_of_ahead hnow hahead _ _ _
      _ = setClock (t.run q (t.now + a + b)) (t.now + a + b) := by rw [run_run t q hle]
      _ = t.sleep q (a + b) := by rw [sleep_eq, Nat.add_assoc]
  · rw [hfirst, setClock, firings_of_ahead hnow hahead, firings_run t q hle, Nat.add_assoc]
  · rw [hfirst]
    exact run_of_none (t := { (t.run q (t.now + a)).1 with now := t.now + a }) hnone _

end ScriptHost.Timers
