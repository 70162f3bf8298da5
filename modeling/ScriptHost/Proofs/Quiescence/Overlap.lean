import ScriptHost.Proofs.Quiescence.Decision

/-!
# Runs that overlap

A host may run fragments and main scripts side by side.  The watchdog does not count these runs: it
keeps one flag for all main scripts and nothing for fragments.  Hence it may be told that a run is
complete, and track, while others are still under way.

Here the runs are counted (`Running`), along histories in which only runs that are under way complete
(`Bracketed`).  Whoever completes last has always led to tracking.  Conversely tracking has been left
to the last exactly if no run has completed too early, in a sense that speaks of completions alone
(`Orderly`): a main script completes with nothing else under way, and fragments that no main script
follows complete as the last fragments or beside a main script.
-/

namespace ScriptHost.Quiescence

/-- How many runs of either kind are under way. -/
structure Running where
  fragments : Nat
  mains : Nat
  deriving DecidableEq

namespace Running

/-- Nothing is under way. -/
def none : Running := ⟨0, 0⟩

/-- The runs under way after a transition. -/
def next (r : Running) : Transition → Running
  | .startFragments => { r with fragments := r.fragments + 1 }
  | .completeFragments _ => { r with fragments := r.fragments - 1 }
  | .startMain => { r with mains := r.mains + 1 }
  | .completeMain => { r with mains := r.mains - 1 }
  | .startInteractive => r

/-- Runs can start at any time, and complete if they are under way. -/
def Allows (r : Running) : Transition → Prop
  | .startFragments | .startMain => True
  | .completeFragments _ => 0 < r.fragments
  | .completeMain => 0 < r.mains
  | .startInteractive => False

instance (r : Running) : (t : Transition) → Decidable (r.Allows t)
  | .startFragments | .startMain => isTrue trivial
  | .completeFragments _ => inferInstanceAs (Decidable (0 < r.fragments))
  | .completeMain => inferInstanceAs (Decidable (0 < r.mains))
  | .startInteractive => isFalse id

/-- With these runs still under way, the completion does not come too early. -/
def Awaits (r : Running) : Transition → Prop
  | .completeMain => r = none
  | .completeFragments false => r.fragments = 0 ∨ 0 < r.mains
  | _ => True

/-- The runs under way after transitions that begin with none, the latest first. -/
def after : List Transition → Running
  | [] => none
  | t :: past => (after past).next t

/-- Only runs that are under way complete. -/
def Bracketed : List Transition → Prop
  | [] => True
  | t :: past => (after past).Allows t ∧ Bracketed past

instance : (past : List Transition) → Decidable (Bracketed past)
  | [] => isTrue trivial
  | t :: past =>
      have := instDecidableBracketed past
      inferInstanceAs (Decidable ((after past).Allows t ∧ Bracketed past))

/-- No completion comes too early. -/
def Orderly : List Transition → Prop
  | [] => True
  | t :: past => (after (t :: past)).Awaits t ∧ Orderly past

end Running

/-- A completion after which nothing more is to come. -/
def Transition.IsFinal (t : Transition) : Prop :=
  t = .completeMain ∨ t = .completeFragments false

/-! ## One transition -/

namespace Watchdog

variable {w : Watchdog} {r : Running} {t : Transition}

/-- What the watchdog knows of the runs in any case. -/
structure Follows (w : Watchdog) (r : Running) : Prop where
  outside : w.phase ≠ .interactive
  flagged : w.mainRunning = true → 0 < r.mains

/-- The watchdog knows whether a main script runs, and tracks only if nothing is under way. -/
structure Heeds (w : Watchdog) (r : Running) : Prop extends w.Follows r where
  unflagged : w.mainRunning = false → r.mains = 0
  tracking : w.phase = .tracking → r = .none

theorem advance_phase (houtside : w.phase ≠ .interactive) (t : Transition) :
    (w.advance t).phase = w.target t := by
  simp [advance, houtside]

theorem advance_mainRunning (houtside : w.phase ≠ .interactive) (t : Transition) :
    (w.advance t).mainRunning = w.mainAfter t := by
  simp [advance, houtside]

theorem Follows.advance (h : w.Follows r) (hallowed : r.Allows t) :
    (w.advance t).Follows (r.next t) where
  outside := by
    rw [advance_phase h.outside]
    cases t with
    | completeFragments pending =>
        simp only [target]
        split <;> simp
    | startInteractive => exact hallowed.elim
    | startFragments | startMain | completeMain => simp [target]
  flagged := by
    rw [advance_mainRunning h.outside]
    have hflag := h.flagged
    cases t with
    | startMain => simp [Running.next]
    | completeMain => simp [mainAfter]
    | startFragments | completeFragments | startInteractive =>
        simpa [mainAfter, Running.next] using hflag

theorem Follows.congr {w' : Watchdog} (hphase : w'.phase = w.phase)
    (hflag : w'.mainRunning = w.mainRunning) (h : w.Follows r) : w'.Follows r where
  outside := by rw [hphase]; exact h.outside
  flagged := by rw [hflag]; exact h.flagged

theorem Heeds.congr {w' : Watchdog} (hphase : w'.phase = w.phase)
    (hflag : w'.mainRunning = w.mainRunning) (h : w.Heeds r) : w'.Heeds r where
  toFollows := h.toFollows.congr hphase hflag
  unflagged := by rw [hflag]; exact h.unflagged
  tracking := by rw [hphase]; exact h.tracking

/-- Whoever leaves nothing under way leads to tracking. -/
theorem Follows.tracks_at_last (h : w.Follows r) (hfinal : t.IsFinal)
    (hlast : r.next t = .none) : (w.advance t).phase = .tracking := by
  rw [advance_phase h.outside]
  rcases hfinal with rfl | rfl
  · rfl
  · -- with no main script under way the flag is down
    have hnone : r.mains = 0 := congrArg Running.mains hlast
    have hflag : w.mainRunning = false := by
      refine Bool.eq_false_iff.2 fun hup => ?_
      have hpos := h.flagged hup
      omega
    simp [target, hflag]

/-- A watchdog that has heeded the runs tracks too early exactly at a completion that comes too
early. -/
theorem Heeds.awaits_iff (h : w.Heeds r) (hallowed : r.Allows t) :
    ((w.advance t).phase = .tracking → r.next t = .none) ↔ (r.next t).Awaits t := by
  rw [advance_phase h.outside]
  cases t with
  | startFragments | startMain => simp [target, Running.Awaits]
  | startInteractive => exact hallowed.elim
  | completeMain => simp [target, Running.Awaits]
  | completeFragments pending =>
      cases pending with
      | true => simp [target, Running.Awaits]
      | false =>
          by_cases hflag : w.mainRunning = true
          · have hpos := h.flagged hflag
            simp [target, hflag, Running.Awaits, Running.next, hpos]
          · -- the flag is down, so it is the last fragments that have to complete last
            have hnone := h.unflagged (by simpa using hflag)
            simp [target, hflag, Running.Awaits, Running.next, hnone, Running.none]

theorem Heeds.advance (h : w.Heeds r) (hallowed : r.Allows t) (hawaits : (r.next t).Awaits t) :
    (w.advance t).Heeds (r.next t) where
  toFollows := h.toFollows.advance hallowed
  unflagged := by
    rw [advance_mainRunning h.outside]
    have hflag := h.unflagged
    cases t with
    | startMain => simp [mainAfter]
    | completeMain =>
        intro _
        exact congrArg Running.mains hawaits
    | startFragments | completeFragments | startInteractive =>
        simpa [mainAfter, Running.next] using hflag
  tracking := (h.awaits_iff hallowed).2 hawaits

end Watchdog

/-! ## Histories -/

/-- The transition that an act is, if it is one. -/
def Act.transition? : Act → Option Transition
  | .change (.transition t) => some t
  | .change (.setDaemon _) | .change (.setTally _) | .poll => none

/-- The transitions of a history, the latest first. -/
def transitions (past : List Act) : List Transition := past.filterMap Act.transition?

namespace Watched

variable {threshold : Nat} {s : Watched} {past : List Act}

/-- The world after further acts, the latest first. -/
def onward (threshold : Nat) (s : Watched) : List Act → Watched
  | [] => s
  | a :: past => (onward threshold s past).act threshold a

theorem act_of_transition {a : Act} {t : Transition} (ha : a.transition? = some t) :
    (s.act threshold a).watchdog = s.watchdog.advance t := by
  cases a with
  | poll => simp [Act.transition?] at ha
  | change c =>
      cases c with
      | transition other =>
          obtain rfl : other = t := Option.some.inj ha
          rfl
      | setDaemon daemon => simp [Act.transition?] at ha
      | setTally tally => simp [Act.transition?] at ha

/-- Acts that are no transitions leave the phase and the flag as they are. -/
theorem act_of_no_transition {a : Act} (ha : a.transition? = none) :
    (s.act threshold a).watchdog.phase = s.watchdog.phase ∧
      (s.act threshold a).watchdog.mainRunning = s.watchdog.mainRunning := by
  cases a with
  | poll =>
      simp only [act, poll, Watchdog.poll, Watchdog.pollBy]
      split <;> exact ⟨rfl, rfl⟩
  | change c =>
      cases c with
      | transition t => simp [Act.transition?] at ha
      | setDaemon daemon => exact ⟨rfl, rfl⟩
      | setTally tally => exact ⟨rfl, rfl⟩

theorem transitions_of_none {a : Act} (ha : a.transition? = none) (past : List Act) :
    transitions (a :: past) = transitions past := by
  simp [transitions, ha]

theorem transitions_of_some {a : Act} {t : Transition} (ha : a.transition? = some t)
    (past : List Act) : transitions (a :: past) = t :: transitions past := by
  simp [transitions, ha]

/-- Along a bracketed history the flag is up only while a main script is under way. -/
theorem follows_onward (houtside : s.watchdog.phase ≠ .interactive)
    (hidle : s.watchdog.mainRunning = false) (hpast : Running.Bracketed (transitions past)) :
    (onward threshold s past).watchdog.Follows (Running.after (transitions past)) := by
  induction past with
  | nil => exact ⟨houtside, by simp [onward, hidle]⟩
  | cons a past ih =>
      cases ha : a.transition? with
      | none =>
          rw [transitions_of_none ha] at hpast ⊢
          obtain ⟨hphase, hflag⟩ := act_of_no_transition ha
          exact (ih hpast).congr hphase hflag
      | some t =>
          rw [transitions_of_some ha] at hpast ⊢
          obtain ⟨hallowed, hpast⟩ := hpast
          rw [onward, act_of_transition ha]
          exact (ih hpast).advance hallowed

/-- While no completion comes too early, the watchdog heeds the runs. -/
theorem heeds_onward (houtside : s.watchdog.phase ≠ .interactive)
    (hidle : s.watchdog.mainRunning = false) (hpast : Running.Bracketed (transitions past))
    (horderly : Running.Orderly (transitions past)) :
    (onward threshold s past).watchdog.Heeds (Running.after (transitions past)) := by
  induction past with
  | nil => exact ⟨⟨houtside, by simp [onward, hidle]⟩, fun _ => rfl, fun _ => rfl⟩
  | cons a past ih =>
      cases ha : a.transition? with
      | none =>
          rw [transitions_of_none ha] at hpast horderly ⊢
          obtain ⟨hphase, hflag⟩ := act_of_no_transition ha
          exact (ih hpast horderly).congr hphase hflag
      | some t =>
          rw [transitions_of_some ha] at hpast horderly ⊢
          obtain ⟨hallowed, hpast⟩ := hpast
          obtain ⟨hawaits, horderly⟩ := horderly
          rw [onward, act_of_transition ha]
          exact (ih hpast horderly).advance hallowed hawaits

/-- At no moment of the history does the watchdog track with runs under way. -/
def TracksLast (threshold : Nat) (s : Watched) (past : List Act) : Prop :=
  ∀ before, before <:+ past → (onward threshold s before).watchdog.phase = .tracking →
    Running.after (transitions before) = .none

theorem tracksLast_cons (a : Act) (past : List Act) :
    TracksLast threshold s (a :: past) ↔
      ((onward threshold s (a :: past)).watchdog.phase = .tracking →
        Running.after (transitions (a :: past)) = .none) ∧ TracksLast threshold s past := by
  simp only [TracksLast, List.suffix_cons_iff, or_imp, forall_and, forall_eq]

theorem tracksLast_iff (houtside : s.watchdog.phase ≠ .interactive)
    (hidle : s.watchdog.mainRunning = false) (hpast : Running.Bracketed (transitions past)) :
    TracksLast threshold s past ↔ Running.Orderly (transitions past) := by
  induction past with
  | nil =>
      refine ⟨fun _ => trivial, fun _ before hbefore _ => ?_⟩
      rw [List.suffix_nil.1 hbefore]
      rfl
  | cons a past ih =>
      rw [tracksLast_cons]
      cases ha : a.transition? with
      | none =>
          rw [transitions_of_none ha] at hpast ⊢
          rw [ih hpast, onward, (act_of_no_transition ha).1]
          -- nothing has changed since the moment before
          exact and_iff_right_of_imp fun horderly =>
            (heeds_onward houtside hidle hpast horderly).tracking
      | some t =>
          rw [transitions_of_some ha] at hpast ⊢
          obtain ⟨hallowed, hpast⟩ := hpast
          rw [ih hpast, onward, act_of_transition ha]
          exact and_congr_left fun horderly =>
            (heeds_onward houtside hidle hpast horderly).awaits_iff hallowed

/-- Runs of scripts that begin while nothing is under way, outside the interactive phase, and of
which only those under way complete, in any order and with polls and other changes in between.  The
watchdog never tracks with one of them under way exactly if no completion comes too early: each main
script completes with nothing else under way, and fragments that no main script follows complete as
the last fragments or beside a main script.  In that case no poll answers "over" before the last of
them has completed.  In any case the last completion leads to tracking, unless it is that of
fragments which a main script follows. -/
theorem tracks_last_iff_orderly (threshold : Nat) {s : Watched} {past : List Act}
    (houtside : s.watchdog.phase ≠ .interactive) (hidle : s.watchdog.mainRunning = false)
    (hpast : Running.Bracketed (transitions past)) :
    (TracksLast threshold s past ↔ Running.Orderly (transitions past)) ∧
    (Running.Orderly (transitions past) → ∀ before, before <:+ past →
      ((onward threshold s before).poll threshold).1 = .ended →
        Running.after (transitions before) = .none) ∧
    (∀ t, t.IsFinal → (Running.after (transitions past)).next t = .none →
      (onward threshold s (.change (.transition t) :: past)).watchdog.phase = .tracking) := by
  have hiff : TracksLast threshold s past ↔ _ := tracksLast_iff houtside hidle hpast
  refine ⟨hiff, fun horderly before hbefore hover => ?_, fun t hfinal hlast => ?_⟩
  · have htracking := (Watchdog.of_over hover).1
    exact hiff.2 horderly before hbefore ((isTracking_iff _).1 htracking).1
  · exact (follows_onward houtside hidle hpast).tracks_at_last hfinal hlast

/-- Fragments that begin first and complete while the main script runs. -/
def mainLast : List Act :=
  [.change (.transition (.completeFragments false)), .change (.transition .startMain),
    .change (.transition .startFragments)]

/-- The main script completes last: the phase is still that of the main script before, and tracking
afterwards. -/
theorem mainLast_tracks :
    (start.onward 3 mainLast).watchdog.phase = .main ∧ TracksLast 3 start mainLast ∧
      (start.onward 3 (.change (.transition .completeMain) :: mainLast)).watchdog.phase =
        .tracking :=
  have houtside : start.watchdog.phase ≠ .interactive := by decide
  have hbracketed : Running.Bracketed (transitions mainLast) := by decide
  have htracks := tracks_last_iff_orderly 3 houtside rfl hbracketed
  have horderly : Running.Orderly (transitions mainLast) :=
    ⟨.inl rfl, trivial, trivial, trivial⟩
  ⟨by decide, htracks.1.2 horderly, htracks.2.2 .completeMain (.inl rfl) (by decide)⟩

/-- Two main scripts run side by side.  After the first of them has completed, fragments begin and
complete, and then the second main script does. -/
def sideBySide : List Act :=
  [.change (.transition .completeMain), .change (.transition (.completeFragments false)),
    .change (.transition .startFragments), .change (.transition .completeMain),
    .change (.transition .startMain), .change (.transition .startMain)]

/-- When the first main script has completed the watchdog tracks, and an idle poll ends the run,
though the second is under way.  The completion of the fragments leads to tracking as well, though a
main script is running. -/
theorem over_while_main_runs :
    Running.Bracketed (transitions sideBySide) ∧ Running.after (transitions sideBySide) = .none ∧
      Running.after (transitions (sideBySide.drop 3)) = ⟨0, 1⟩ ∧
      (start.onward 1 (sideBySide.drop 3)).watchdog.phase = .tracking ∧
      ((start.onward 1 (sideBySide.drop 3)).poll 1).1 = .ended ∧
      Running.after (transitions (sideBySide.drop 1)) = ⟨0, 1⟩ ∧
      (start.onward 1 (sideBySide.drop 1)).watchdog.phase = .tracking := by
  decide

end Watched
end ScriptHost.Quiescence
