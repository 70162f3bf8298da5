import ScriptHost.Quiescence.Watchdog

/-!
# Polls in a row

While the watchdog sees the same idle tally again and again, it answers "over" as soon as it has been
polled as often as the threshold says.  It counts polls and nothing else: whatever the host does
between two of them is lost on it unless a count is different at a poll.
-/

namespace ScriptHost.Quiescence

theorem Verdict.of_eq_ended_iff {idle? : Option Bool} {enough : Bool} :
    Verdict.of idle? enough = .ended ↔ idle? = some true ∧ enough = true := by
  cases idle? with
  | none => simp [Verdict.of]
  | some idle => cases idle <;> simp [Verdict.of]

theorem Verdict.of_eq_panicked_iff {idle? : Option Bool} {enough : Bool} :
    Verdict.of idle? enough = .panicked ↔ idle? = none := by
  cases idle? with
  | none => simp [Verdict.of]
  | some idle =>
      simp only [Verdict.of, reduceCtorEq, iff_false]
      split <;> simp

namespace Watchdog

variable {idle? : Tally → Option Bool} {threshold : Nat} {w : Watchdog} {tally : Tally}

/-- Poll several times in a row with one tally. -/
def pollAgain (threshold : Nat) (tally : Tally) : Nat → Watchdog → Watchdog
  | 0, w => w
  | n + 1, w => pollAgain threshold tally n (w.poll threshold tally).2

theorem isTracking_poll (threshold : Nat) (w : Watchdog) (tally : Tally) :
    (w.poll threshold tally).2.isTracking = w.isTracking := by
  rw [poll, pollBy]
  split <;> rfl

theorem isTracking_pollAgain (threshold : Nat) (tally : Tally) (n : Nat) :
    ∀ w : Watchdog, (pollAgain threshold tally n w).isTracking = w.isTracking := by
  induction n with
  | zero => exact fun _ => rfl
  | succ n ih => exact fun w => (ih _).trans (isTracking_poll threshold w tally)

/-- Only a poll that may end the run and sees an idle tally answers "over". -/
theorem of_over (hover : (w.pollBy idle? threshold tally).1 = .ended) :
    w.isTracking = true ∧ idle? tally = some true := by
  rw [pollBy] at hover
  split at hover
  · rename_i htracking
    exact ⟨htracking, (Verdict.of_eq_ended_iff.1 hover).1⟩
  · cases hover

/-- A poll panics if it may end the run and nothing can be said of its tally. -/
theorem panicked_iff : (w.pollBy idle? threshold tally).1 = .panicked ↔
    w.isTracking = true ∧ idle? tally = none := by
  rw [pollBy]
  split
  · rename_i htracking
    rw [Verdict.of_eq_panicked_iff, and_iff_right htracking]
  · rename_i hrests
    exact ⟨nofun, fun h => absurd h.1 hrests⟩

/-- How many polls in a row have seen a tally, up to `maxPolls`. -/
def streak (w : Watchdog) (tally : Tally) : Nat :=
  if w.lastTally = some tally then w.stablePolls else 0

theorem streak_poll (htracking : w.isTracking = true) :
    (w.poll threshold tally).2.streak tally = min (w.streak tally + 1) maxPolls := by
  rw [poll, pollBy, if_pos htracking, streak, streak, if_pos rfl]
  dsimp only
  split
  · rfl
  · rfl

/-- Each poll makes the streak longer. -/
theorem le_streak_pollAgain (threshold : Nat) (tally : Tally) (n : Nat) :
    ∀ {w : Watchdog}, w.isTracking = true →
      min (w.streak tally + n) maxPolls ≤ (pollAgain threshold tally n w).streak tally := by
  induction n with
  | zero =>
      intro w _
      exact Nat.min_le_left _ _
  | succ n ih =>
      intro w htracking
      have hnext := ih ((isTracking_poll threshold w tally).trans htracking)
      rw [streak_poll htracking] at hnext
      show _ ≤ (pollAgain threshold tally n (w.poll threshold tally).2).streak tally
      omega

/-- A poll that may end the run answers "over" if the tally is idle and the streak is long enough. -/
theorem over_iff (htracking : w.isTracking = true) :
    (w.pollBy idle? threshold tally).1 = .ended ↔
      idle? tally = some true ∧ threshold ≤ min (w.streak tally + 1) maxPolls := by
  rw [pollBy, if_pos htracking, Verdict.of_eq_ended_iff, decide_eq_true_eq, streak]
  split
  · exact Iff.rfl
  · exact Iff.rfl

/-- A poll that sees an idle tally for too short a streak answers that the run goes on. -/
theorem goesOn_of_idle (htracking : w.isTracking = true) (hidle : idle? tally = some true)
    (hshort : min (w.streak tally + 1) maxPolls < threshold) :
    (w.pollBy idle? threshold tally).1 = .goesOn := by
  cases hverdict : (w.pollBy idle? threshold tally).1 with
  | goesOn => rfl
  | ended => exact absurd ((over_iff htracking).1 hverdict).2 (Nat.not_le_of_lt hshort)
  | panicked => exact absurd (hidle.symm.trans (panicked_iff.1 hverdict).2) (Option.some_ne_none _)

/-- As many polls as the threshold says, and one at least, end a run that is idle. -/
theorem over_of_polls (htracking : w.isTracking = true) (hidle : tally.isIdle? = some true)
    (hthreshold : threshold ≤ maxPolls) :
    ((pollAgain threshold tally (threshold - 1) w).poll threshold tally).1 = .ended := by
  refine (over_iff ((isTracking_pollAgain _ _ _ w).trans htracking)).2 ⟨hidle, ?_⟩
  have := le_streak_pollAgain threshold tally (threshold - 1) htracking
  omega

end Watchdog
end ScriptHost.Quiescence
