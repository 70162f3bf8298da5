import ScriptHost.Quiescence.Wait
import ScriptHost.Proofs.Quiescence.Polls
import ScriptHost.Proofs.Quiescence.Sums

/-!
# The decision, told from the history

The watchdog keeps one tally and one bounded counter.  What they stand for is a matter of the whole
history: which polls have been made since the comparison last began anew, and what each of them saw.
A history is written with its latest act first, so that what happened most recently is at the head of
every list here.

Two beginnings have to be told apart.  A transition that is not ignored and a setting of daemon mode
begin the history of a decision (`seen`); for the comparison of tallies a poll that cannot end the
run is a beginning too (`compared`).  While the run can be ended the two lists are the same.
-/

namespace ScriptHost.Quiescence

/-! ## Runs of equal tallies -/

/-- How many tallies at the head of a list are a given one. -/
def ahead (tally : Tally) (tallies : List Tally) : Nat :=
  (tallies.takeWhile (· = tally)).length

/-- The length of the run of equal tallies at the head of a list. -/
def steady : List Tally → Nat
  | [] => 0
  | tally :: rest => ahead tally rest + 1

@[simp] theorem ahead_nil (tally : Tally) : ahead tally [] = 0 := rfl

@[simp] theorem ahead_cons (tally other : Tally) (rest : List Tally) :
    ahead tally (other :: rest) = if other = tally then ahead tally rest + 1 else 0 := by
  by_cases heq : other = tally
  · simp [ahead, heq]
  · simp [ahead, heq]

theorem le_ahead_iff (tally : Tally) (n : Nat) : ∀ tallies : List Tally,
    n ≤ ahead tally tallies ↔ n ≤ tallies.length ∧ ∀ t ∈ tallies.take n, t = tally := by
  induction n with
  | zero => simp
  | succ n ih =>
      intro tallies
      cases tallies with
      | nil => simp
      | cons other rest =>
          by_cases heq : other = tally
          · have hrest := ih rest
            simp only [ahead_cons, heq, if_true, Nat.add_le_add_iff_right, List.length_cons,
              List.take_succ_cons, List.forall_mem_cons, true_and]
            exact hrest
          · simp [heq]

/-! ## Histories -/

/-- What can happen to a watched world: a change, or a poll. -/
inductive Act where
  | change (c : Change)
  | poll
  deriving DecidableEq

namespace Watched

/-- The world after an act. -/
def act (threshold : Nat) (s : Watched) : Act → Watched
  | .change c => s.apply c
  | .poll => (s.poll threshold).2

/-- The world after a history, the latest act of which comes first. -/
def after (threshold : Nat) : List Act → Watched
  | [] => start
  | a :: past => (after threshold past).act threshold a

/-- Whether a change begins anew: a setting of daemon mode does, and a transition unless it is
ignored. -/
def begins (s : Watched) : Change → Prop
  | .transition _ => s.watchdog.phase ≠ .interactive
  | .setDaemon _ => True
  | .setTally _ => False

instance (s : Watched) (c : Change) : Decidable (s.begins c) :=
  match c with
  | .transition _ => inferInstanceAs (Decidable (_ ≠ _))
  | .setDaemon _ => inferInstanceAs (Decidable True)
  | .setTally _ => inferInstanceAs (Decidable False)

/-- The tallies at the polls since the last effective transition or setting of daemon mode. -/
def seen (threshold : Nat) : List Act → List Tally
  | [] => []
  | .poll :: past => (after threshold past).tally :: seen threshold past
  | .change c :: past => if (after threshold past).begins c then [] else seen threshold past

/-- The tallies at the polls since the comparison last began anew. -/
def compared (threshold : Nat) : List Act → List Tally
  | [] => []
  | .poll :: past =>
      if (after threshold past).watchdog.isTracking then
        (after threshold past).tally :: compared threshold past
      else []
  | .change c :: past => if (after threshold past).begins c then [] else compared threshold past

variable {threshold : Nat} {past : List Act}

/-! ## What a change does to the watchdog -/

theorem apply_of_begins {s : Watched} {c : Change} (h : s.begins c) :
    (s.apply c).watchdog.lastTally = none ∧ (s.apply c).watchdog.stablePolls = 0 := by
  cases c with
  | transition t =>
      have hphase : s.watchdog.phase ≠ .interactive := h
      simp [apply, Watchdog.advance, Watchdog.reset, hphase]
  | setDaemon daemon => simp [apply, Watchdog.setDaemon, Watchdog.reset]
  | setTally tally => exact h.elim

theorem apply_of_not_begins {s : Watched} {c : Change} (h : ¬s.begins c) :
    (s.apply c).watchdog = s.watchdog := by
  cases c with
  | transition t =>
      have hphase : s.watchdog.phase = .interactive := Decidable.not_not.1 h
      simp [apply, Watchdog.advance, hphase]
  | setDaemon daemon => exact absurd trivial h
  | setTally tally => rfl

/-! ## What the watchdog keeps of the history -/

/-- The watchdog keeps the latest tally of the comparison, and the bounded length of its run. -/
theorem kept_after (threshold : Nat) (past : List Act) :
    (after threshold past).watchdog.lastTally = (compared threshold past).head? ∧
      (after threshold past).watchdog.stablePolls =
        min (steady (compared threshold past)) maxPolls := by
  induction past with
  | nil => exact ⟨rfl, rfl⟩
  | cons a past ih =>
      obtain ⟨hlast, hstable⟩ := ih
      cases a with
      | change c =>
          by_cases hbegins : (after threshold past).begins c
          · simpa [after, act, compared, hbegins, steady] using apply_of_begins hbegins
          · simpa [after, act, compared, hbegins, apply_of_not_begins hbegins] using
              And.intro hlast hstable
      | poll =>
          by_cases htracking : (after threshold past).watchdog.isTracking = true
          · refine ⟨by
              simp [after, act, poll, Watchdog.poll, Watchdog.pollBy, compared, htracking], ?_⟩
            -- the counter goes on exactly if the tally is the one at the head of the comparison
            simp only [after, act, poll, Watchdog.poll, Watchdog.pollBy, compared, htracking, if_true,
              hlast, hstable, steady]
            cases compared threshold past with
            | nil => simp [maxPolls]
            | cons tally rest =>
                by_cases heq : tally = (after threshold past).tally
                · simp only [heq, List.head?_cons, if_true, ahead_cons]
                  omega
                · simp [heq, maxPolls]
          · simp [after, act, poll, Watchdog.poll, Watchdog.pollBy, Watchdog.reset, compared,
              htracking, steady]

theorem streak_after (threshold : Nat) (past : List Act) (tally : Tally) :
    (after threshold past).watchdog.streak tally =
      min (ahead tally (compared threshold past)) maxPolls := by
  obtain ⟨hlast, hstable⟩ := kept_after threshold past
  rw [Watchdog.streak, hlast, hstable]
  cases compared threshold past with
  | nil => simp
  | cons other rest =>
      by_cases heq : other = tally
      · simp [heq, steady]
      · simp [heq]

/-- As long as the run can be ended, no poll has begun the comparison anew since the last change
that did. -/
theorem compared_eq_seen (htracking : (after threshold past).watchdog.isTracking = true) :
    compared threshold past = seen threshold past := by
  induction past with
  | nil => rfl
  | cons a past ih =>
      cases a with
      | change c =>
          by_cases hbegins : (after threshold past).begins c
          · simp [compared, seen, hbegins]
          · have hsame := apply_of_not_begins hbegins
            simp only [after, act, hsame] at htracking
            simpa [compared, seen, hbegins] using ih htracking
      | poll =>
          have hbefore : (after threshold past).watchdog.isTracking = true := by
            rw [← Watchdog.isTracking_poll threshold _ (after threshold past).tally]
            exact htracking
          simp [compared, seen, hbefore, ih hbefore]

/-! ## Tallies that have been set -/

theorem fits_after (hfits : ∀ tally, .change (.setTally tally) ∈ past → tally.Fits) :
    (after threshold past).tally.Fits := by
  induction past with
  | nil => exact of_decide_eq_true rfl
  | cons a past ih =>
      have hbefore := ih fun tally hmem => hfits tally (List.mem_cons_of_mem _ hmem)
      cases a with
      | poll => exact hbefore
      | change c =>
          cases c with
          | transition t => exact hbefore
          | setDaemon daemon => exact hbefore
          | setTally tally => exact hfits tally List.mem_cons_self

/-! ## The interactive phase -/

theorem act_interactive {s : Watched} (h : s.watchdog.phase = .interactive) (a : Act) :
    (s.act threshold a).watchdog.phase = .interactive := by
  cases a with
  | poll =>
      have hidle : s.watchdog.isTracking = false := by simp [Watchdog.isTracking, h]
      simpa [act, poll, Watchdog.poll, Watchdog.pollBy, hidle, Watchdog.reset] using h
  | change c =>
      cases c with
      | transition t => simp [act, apply, Watchdog.advance, h]
      | setDaemon daemon => exact h
      | setTally tally => exact h

theorem after_interactive (h : (after threshold past).watchdog.phase = .interactive)
    (later : List Act) : (after threshold (later ++ past)).watchdog.phase = .interactive := by
  induction later with
  | nil => exact h
  | cons a later ih => exact act_interactive ih a

theorem fixed_of_interactive {s : Watched} (h : s.watchdog.phase = .interactive) :
    (∀ t, s.apply (.transition t) = s) ∧ (s.poll threshold).1 = .goesOn := by
  constructor
  · intro t
    simp [apply, Watchdog.advance, h]
  · have hidle : s.watchdog.isTracking = false := by simp [Watchdog.isTracking, h]
    simp [poll, Watchdog.poll, Watchdog.pollBy, hidle]

/-! ## The decision -/

theorem isTracking_iff (w : Watchdog) :
    w.isTracking = true ↔ w.phase = .tracking ∧ w.daemon = false := by
  simp [Watchdog.isTracking, and_comm]

/-- A poll that may end the run does so if it is the last of enough polls with the same idle tally,
whatever test says that it is idle. -/
theorem over_iff_seen (idle? : Tally → Option Bool) (hbound : threshold ≤ maxPolls)
    (htracking : (after threshold past).watchdog.isTracking = true) :
    ((after threshold past).watchdog.pollBy idle? threshold (after threshold past).tally).1 =
        .ended ↔
      idle? (after threshold past).tally = some true ∧
        max 1 threshold ≤ ahead (after threshold past).tally (seen threshold (.poll :: past)) := by
  rw [Watchdog.over_iff htracking, streak_after, compared_eq_seen htracking, seen, ahead_cons,
    if_pos rfl]
  refine and_congr_right fun _ => ?_
  simp only [Nat.le_min, Nat.max_le]
  omega

/-- A poll that may end the run does so if it is the last of enough polls with nothing
outstanding. -/
theorem over_iff_ahead (hbound : threshold ≤ maxPolls)
    (htracking : (after threshold past).watchdog.isTracking = true) :
    ((after threshold past).poll threshold).1 = .ended ↔
      max 1 threshold ≤ ahead .zero (seen threshold (.poll :: past)) := by
  refine (over_iff_seen Tally.isIdle? hbound htracking).trans ?_
  rw [Tally.isIdle?_iff]
  by_cases hzero : (after threshold past).tally = Tally.zero
  · simp only [hzero, true_and]
  · simp [hzero, seen]

/-- A poll whose tally can be added up does not panic. -/
theorem poll_ne_panicked {s : Watched} (hfits : s.tally.Fits) :
    (s.poll threshold).1 ≠ .panicked := fun hpanics =>
  Tally.isIdle?_eq_none_iff.1 (Watchdog.panicked_iff.1 hpanics).2 hfits

/-- A poll answers "over" exactly if the host tracks, daemon mode is off, and enough polls, one at
least, have been made since the last effective transition or setting of daemon mode, the latest of
which have all seen nothing outstanding; no poll panics.  At all times the counter is the length, up to its bound, of
the latest run of equal tallies in the comparison.  From the interactive phase on no transition does
anything and no poll answers "over". -/
theorem decision_of_history (threshold : UInt32) (past : List Act)
    (hfits : ∀ tally, .change (.setTally tally) ∈ past → tally.Fits) :
    (((after threshold.toNat past).poll threshold.toNat).1 = .ended ↔
      (after threshold.toNat past).watchdog.phase = .tracking ∧
        (after threshold.toNat past).watchdog.daemon = false ∧
        max 1 threshold.toNat ≤ (seen threshold.toNat (.poll :: past)).length ∧
        ∀ tally ∈ (seen threshold.toNat (.poll :: past)).take (max 1 threshold.toNat),
          tally = .zero) ∧
    ((after threshold.toNat past).poll threshold.toNat).1 ≠ .panicked ∧
    (after threshold.toNat past).watchdog.stablePolls =
      min (steady (compared threshold.toNat past)) maxPolls ∧
    ((after threshold.toNat past).watchdog.phase = .interactive → ∀ later : List Act,
      (∀ t, (after threshold.toNat (later ++ past)).apply (.transition t) =
        after threshold.toNat (later ++ past)) ∧
      ((after threshold.toNat (later ++ past)).poll threshold.toNat).1 = .goesOn) := by
  have hbound : threshold.toNat ≤ maxPolls := by
    have := threshold.toNat_lt
    simp only [maxPolls]
    omega
  refine ⟨?_, poll_ne_panicked (fits_after hfits), (kept_after _ past).2, fun hphase later =>
    fixed_of_interactive (after_interactive hphase later)⟩
  rw [← le_ahead_iff, ← and_assoc, ← isTracking_iff]
  constructor
  · intro hover
    have htracking := (Watchdog.of_over hover).1
    exact ⟨htracking, (over_iff_ahead hbound htracking).1 hover⟩
  · rintro ⟨htracking, hahead⟩
    exact (over_iff_ahead hbound htracking).2 hahead

/-- A run whose last timer is gone after its first poll, and that has been polled once since. -/
def timerGone : List Act :=
  [.poll, .change (.setTally .zero), .poll, .change (.setTally ⟨0, 1, 0, 0, 0, 0⟩),
    .change (.transition .completeMain), .change (.transition .startMain)]

theorem fits_of_timerGone : ∀ tally, .change (.setTally tally) ∈ timerGone → tally.Fits := by
  intro tally hmem
  simp only [timerGone, List.mem_cons, Act.change.injEq, Change.setTally.injEq, reduceCtorEq,
    false_or, or_false, List.not_mem_nil] at hmem
  rcases hmem with rfl | rfl <;> decide

/-- With a threshold of two its next poll ends the run, though the poll that saw the timer was only
two polls ago. -/
theorem over_once_timer_gone :
    ((after (2 : UInt32).toNat timerGone).poll (2 : UInt32).toNat).1 = .ended ∧
      (after (2 : UInt32).toNat timerGone).watchdog.stablePolls =
        min (steady (compared (2 : UInt32).toNat timerGone)) maxPolls :=
  have hdecision := decision_of_history 2 timerGone fits_of_timerGone
  ⟨hdecision.1.2 ⟨by decide, by decide, by decide, by decide⟩, hdecision.2.2.1⟩

end Watched
end ScriptHost.Quiescence
