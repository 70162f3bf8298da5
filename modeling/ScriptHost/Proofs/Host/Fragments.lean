import ScriptHost.Host.Scripts
import ScriptHost.Proofs.Quiescence.Polls
import ScriptHost.Quiescence.Wait

/-!
# The end of a run of fragments

The watchdog is told when the fragments of a script begin and when they have been run.  It is not
told when a submission fails at the host: the run of fragments ends there and then, and the phase
stays what it was.  In that phase no poll ends a run, so every wait comes to nothing until somebody
takes another transition (`timedOut_of_fragments`), be the tally idle or not.

The main part of a script is different.  Its end is told however it comes about.
-/

namespace ScriptHost

/-! ## Waits without transitions -/

namespace Quiescence

/-- Whether a change is a transition. -/
def Change.isTransition : Change → Bool
  | .transition _ => true
  | _ => false

/-- The first tally of a watchdog that tracks is the beginning of a streak. -/
theorem Watchdog.streak_of_fresh {w : Watchdog} (hfresh : w.lastTally = none) (tally : Tally) :
    w.streak tally = 0 := by
  rw [streak, hfresh]
  exact if_neg (Option.some_ne_none tally).symm

variable {threshold interval timeout time : Nat} {changes later : List Timed} {s s' : Watched}

theorem waitFrom_of_over (hpoll : pollAt threshold time changes s = (.ended, later, s'))
    (polls : Nat) :
    (waitFrom threshold interval timeout polls time changes s).1 = .terminated time := by
  rw [waitFrom.eq_def]
  simp only [hpoll]

theorem waitFrom_zero (hpoll : pollAt threshold time changes s = (.goesOn, later, s')) :
    (waitFrom threshold interval timeout 0 time changes s).1 = .timedOut timeout := by
  rw [waitFrom.eq_def]
  simp only [hpoll]

theorem waitFrom_succ (hpoll : pollAt threshold time changes s = (.goesOn, later, s')) (polls : Nat) :
    waitFrom threshold interval timeout (polls + 1) time changes s =
      waitFrom threshold interval timeout polls (time + interval) later s' := by
  rw [waitFrom.eq_def]
  simp only [hpoll]

/-- A wait in which nothing changes and nothing is outstanding ends with the poll that makes the
streak as long as the threshold. -/
theorem waitFrom_of_isTracking {tally : Tally} (hidle : tally.isIdle? = some true)
    (hthreshold : threshold ≤ maxPolls) (interval timeout polls : Nat) :
    ∀ (time : Nat) {w : Watchdog}, w.isTracking = true → threshold ≤ w.streak tally + 1 + polls →
      (waitFrom threshold interval timeout polls time [] ⟨w, tally⟩).1 =
        .terminated (time + (threshold - (w.streak tally + 1)) * interval) := by
  -- the poll that makes the streak long enough is the last one
  have hlast : ∀ (polls time : Nat) {w : Watchdog}, w.isTracking = true →
      threshold ≤ w.streak tally + 1 →
      (waitFrom threshold interval timeout polls time [] ⟨w, tally⟩).1 =
        .terminated (time + (threshold - (w.streak tally + 1)) * interval) := by
    intro polls time w htracking hlong
    have hover : (w.poll threshold tally).1 = .ended :=
      (Watchdog.over_iff htracking).2 ⟨hidle, by omega⟩
    have hpoll : pollAt threshold time [] ⟨w, tally⟩ =
        (.ended, [], ⟨(w.poll threshold tally).2, tally⟩) := Prod.ext hover rfl
    rw [Nat.sub_eq_zero_of_le hlong, Nat.zero_mul, Nat.add_zero]
    exact waitFrom_of_over hpoll polls
  induction polls with
  | zero => exact fun time w htracking hlong => hlast 0 time htracking hlong
  | succ polls ih =>
      intro time w htracking hlong
      by_cases hreached : threshold ≤ w.streak tally + 1
      · exact hlast (polls + 1) time htracking hreached
      · have hgoes : (w.poll threshold tally).1 = .goesOn :=
          Watchdog.goesOn_of_idle htracking hidle (by omega)
        have hpoll : pollAt threshold time [] ⟨w, tally⟩ =
            (.goesOn, [], ⟨(w.poll threshold tally).2, tally⟩) := Prod.ext hgoes rfl
        have hstreak : (w.poll threshold tally).2.streak tally = w.streak tally + 1 := by
          rw [Watchdog.streak_poll htracking]
          omega
        have hrest := ih (time + interval) (w := (w.poll threshold tally).2)
          ((Watchdog.isTracking_poll threshold w tally).trans htracking) (by rw [hstreak]; omega)
        obtain ⟨left, hleft⟩ : ∃ left, threshold = w.streak tally + 1 + (left + 1) :=
          ⟨threshold - (w.streak tally + 2), by omega⟩
        have hbefore : threshold - (w.streak tally + 1) = left + 1 := by omega
        have hafter : threshold - (w.streak tally + 1 + 1) = left := by omega
        rw [waitFrom_succ hpoll, hrest, hstreak, hbefore, hafter, Nat.add_mul, Nat.one_mul,
          Nat.add_assoc, Nat.add_comm interval]

/-- An idle world that tracks from now on ends a wait that is long enough for the polls. -/
theorem wait_of_isTracking {threshold interval timeout : Nat} {w : Watchdog} {tally : Tally}
    (htracking : w.isTracking = true) (hfresh : w.lastTally = none) (hidle : tally.isIdle? = some true)
    (hthreshold : threshold ≤ maxPolls) (htime : (threshold - 1) * max 1 interval ≤ timeout) :
    (wait threshold interval timeout [] ⟨w, tally⟩).1 =
      .terminated ((threshold - 1) * max 1 interval) := by
  have hstreak := Watchdog.streak_of_fresh hfresh tally
  have hpolls : threshold - 1 ≤ timeout / max 1 interval :=
    (Nat.le_div_iff_mul_le (by omega)).2 htime
  have hwait := waitFrom_of_isTracking hidle hthreshold (max 1 interval) timeout
    (timeout / max 1 interval) 0 htracking (by rw [hstreak]; omega)
  rw [hstreak, Nat.zero_add, Nat.zero_add] at hwait
  exact hwait

/-- Without a transition the phase of the fragments is not left. -/
theorem phase_applyWhile (p : Nat → Bool) (changes : List Timed) : ∀ {s : Watched},
    (∀ t ∈ changes, t.change.isTransition = false) →
      (∀ t ∈ (applyWhile p s changes).1, t.change.isTransition = false) ∧
        (applyWhile p s changes).2.watchdog.phase = s.watchdog.phase := by
  induction changes with
  | nil => exact fun _ => ⟨nofun, rfl⟩
  | cons t changes ih =>
      intro s hnone
      rw [applyWhile]
      split
      · obtain ⟨hrest, hphase⟩ := ih (s := s.apply t.change) fun u hu =>
          hnone u (List.mem_cons_of_mem t hu)
        refine ⟨hrest, hphase.trans ?_⟩
        have hchange := hnone t List.mem_cons_self
        cases hc : t.change with
        | transition u =>
            rw [hc] at hchange
            cases hchange
        | setDaemon daemon => rfl
        | setTally tally => rfl
      · exact ⟨hnone, rfl⟩

/-- In the phase of the fragments a poll answers "go on", and the phase stays. -/
theorem pollAt_of_fragments (hphase : s.watchdog.phase = .fragments)
    (hnone : ∀ t ∈ changes, t.change.isTransition = false) (threshold time : Nat) :
    ∃ later s', pollAt threshold time changes s = (.goesOn, later, s') ∧
      s'.watchdog.phase = .fragments ∧ ∀ t ∈ later, t.change.isTransition = false := by
  obtain ⟨hlater, hsame⟩ := phase_applyWhile (· ≤ time) changes hnone (s := s)
  generalize happly : applyWhile (· ≤ time) s changes = out at hlater hsame
  obtain ⟨later, world⟩ := out
  have hfragments : world.watchdog.phase = .fragments := hsame.trans hphase
  have hidle : world.watchdog.isTracking = false := by
    simp [Watchdog.isTracking, hfragments]
  have hpoll : world.poll threshold =
      (.goesOn, { world with watchdog := world.watchdog.reset }) := by
    simp [Watched.poll, Watchdog.poll, Watchdog.pollBy, hidle]
  refine ⟨later, { world with watchdog := world.watchdog.reset }, ?_, hfragments, hlater⟩
  rw [pollAt, happly]
  simp only [hpoll]

/-- In the phase of the fragments no wait ends before its time, whatever becomes of the tally and of
daemon mode meanwhile. -/
theorem waitFrom_of_fragments (polls : Nat) : ∀ (time : Nat) {changes : List Timed} {s : Watched},
    s.watchdog.phase = .fragments → (∀ t ∈ changes, t.change.isTransition = false) →
      (waitFrom threshold interval timeout polls time changes s).1 = .timedOut timeout := by
  induction polls with
  | zero =>
      intro time changes s hphase hnone
      obtain ⟨later, s', hpoll, -, -⟩ := pollAt_of_fragments hphase hnone threshold time
      exact waitFrom_zero hpoll
  | succ polls ih =>
      intro time changes s hphase hnone
      obtain ⟨later, s', hpoll, hphase', hnone'⟩ :=
        pollAt_of_fragments hphase hnone threshold time
      rw [waitFrom_succ hpoll]
      exact ih (time + interval) hphase' hnone'

theorem timedOut_of_fragments {w : Watchdog} (hphase : w.phase = .fragments)
    (threshold interval timeout : Nat) (tally : Tally) {changes : List Timed}
    (hnone : ∀ t ∈ changes, t.change.isTransition = false) :
    (wait threshold interval timeout changes ⟨w, tally⟩).1 = .timedOut timeout :=
  waitFrom_of_fragments _ 0 hphase hnone

end Quiescence

/-! ## Scripts -/

namespace Scripts

open Quiescence (Change Phase Tally Timed Transition Watchdog maxPolls timedOut_of_fragments wait
  wait_of_isTracking)
open Submission (Result)

/-- The watchdog after a run of fragments. -/
def afterFragments (w : Watchdog) (mainPending : Bool) : Except HostFault (List Result) → Watchdog
  | .ok _ => (w.advance .startFragments).advance (.completeFragments mainPending)
  | .error _ => w.advance .startFragments

/-- The watchdog after a run of the main part, whatever has come of it. -/
def afterMain (w : Watchdog) : Watchdog := (w.advance .startMain).advance .completeMain

section

variable {m : Type → Type} [Monad m] [LawfulMonad m] {ω : Type}

/-- All that a run of fragments does besides submitting them is to tell the watchdog. -/
theorem runFragments_eq (submit : Submit m ω) (settings : HostSettings) (fragments : List String)
    (mainPending : Bool) (w : Watchdog) (world : ω) :
    runFragments submit settings fragments mainPending (w, world) =
      (fun out => (out.1, afterFragments w mainPending out.1, out.2)) <$>
        submitFragments submit settings.executionTimeoutMillis 1 fragments world := by
  rw [runFragments, map_eq_pure_bind]
  congr 1
  funext out
  obtain ⟨results, world⟩ := out
  cases results <;> rfl

theorem runMain_eq (submit : Submit m ω) (settings : HostSettings) (source name : String)
    (w : Watchdog) (world : ω) :
    runMain submit settings source name (w, world) =
      (fun out => (out.1, afterMain w, out.2)) <$>
        submit source (mainName name) settings.mainTimeout world := by
  rw [runMain, map_eq_pure_bind]
  rfl

end

/-- Where the fragments of a script lead to when they are over. -/
def phaseAfter (w : Watchdog) (mainPending : Bool) : Phase :=
  if mainPending || w.mainRunning then .main else .tracking

variable {w : Watchdog}

/-- A transition out of a phase that is not interactive starts the comparison of tallies anew. -/
theorem advance_of_ne (hphase : w.phase ≠ .interactive) (t : Transition) :
    w.advance t = { w.reset with phase := w.target t, mainRunning := w.mainAfter t } :=
  if_neg hphase

theorem advance_startFragments (hphase : w.phase ≠ .interactive) :
    w.advance .startFragments = { w.reset with phase := .fragments } := advance_of_ne hphase _

theorem afterFragments_ok (hphase : w.phase ≠ .interactive) (mainPending : Bool)
    (results : List Result) :
    afterFragments w mainPending (.ok results) =
      { w.reset with phase := phaseAfter w mainPending } := by
  rw [afterFragments, advance_startFragments hphase, advance_of_ne (by simp)]
  rfl

theorem afterFragments_error (hphase : w.phase ≠ .interactive) (mainPending : Bool)
    (cause : HostFault) :
    afterFragments w mainPending (.error cause) = { w.reset with phase := .fragments } :=
  advance_startFragments hphase

theorem afterMain_eq (hphase : w.phase ≠ .interactive) :
    afterMain w = { w.reset with phase := .tracking, mainRunning := false } := by
  rw [afterMain, advance_of_ne hphase, advance_of_ne (by simp [Watchdog.target])]
  rfl

/-- Submit fragments to a host at which no submission fails: each of them has a result. -/
def answerFragments {m : Type → Type} [Monad m] {ω : Type}
    (answer : String → String → Nat → ω → m (Result × ω)) (limit : Nat) :
    Nat → List String → ω → m (List Result × ω)
  | _, [], world => pure ([], world)
  | number, source :: rest, world => do
      let (result, world) ← answer source (fragmentName number) limit world
      let (results, world) ← answerFragments answer limit (number + 1) rest world
      pure (result :: results, world)

theorem submitFragments_of_ok {m : Type → Type} [Monad m] [LawfulMonad m] {ω : Type}
    {submit : Submit m ω} {answer : String → String → Nat → ω → m (Result × ω)}
    (hanswer : ∀ source name limit world, submit source name limit world =
      (fun out => (.ok out.1, out.2)) <$> answer source name limit world)
    (limit : Nat) (fragments : List String) : ∀ (number : Nat) (world : ω),
      submitFragments submit limit number fragments world =
        (fun out => (.ok out.1, out.2)) <$>
          answerFragments answer limit number fragments world := by
  induction fragments with
  | nil =>
      intro number world
      rw [submitFragments, answerFragments, map_pure]
  | cons source rest ih =>
      intro number world
      simp only [submitFragments, answerFragments, hanswer, ih, map_eq_pure_bind, bind_assoc,
        pure_bind]
      rfl

/-- **A run of fragments ends the phase of the fragments unless a submission fails at the host.**
What it returns decides where it leaves the watchdog.  If it returns results, the watchdog has gone
on to the main part, if that is pending or running, and otherwise tracks; then a wait on an idle
tally is over as soon as it has made enough polls.  If it returns a failure, the watchdog is still
in the phase of the fragments, and no wait is over in time, whatever becomes of the tally and of
daemon mode, until somebody else takes a transition.  It returns results if no submission fails at
the host, however the guest code ends.

A run of the main part leaves a watchdog that tracks whatever it returns. -/
theorem fragments_end_unless_host_fails {m : Type → Type} [Monad m] [LawfulMonad m] {ω : Type}
    (submit : Submit m ω) (settings : HostSettings) (fragments : List String) (mainPending : Bool)
    (source name : String) {w : Watchdog} (hphase : w.phase ≠ .interactive) (world : ω) :
    (runFragments submit settings fragments mainPending (w, world) =
        (fun out => (out.1, afterFragments w mainPending out.1, out.2)) <$>
          submitFragments submit settings.executionTimeoutMillis 1 fragments world ∧
      runMain submit settings source name (w, world) =
        (fun out => (out.1, afterMain w, out.2)) <$>
          submit source (mainName name) settings.mainTimeout world) ∧
    (∀ answer : String → String → Nat → ω → m (Result × ω),
      (∀ source name limit world, submit source name limit world =
        (fun out => (.ok out.1, out.2)) <$> answer source name limit world) →
      submitFragments submit settings.executionTimeoutMillis 1 fragments world =
        (fun out => (.ok out.1, out.2)) <$>
          answerFragments answer settings.executionTimeoutMillis 1 fragments world) ∧
    (∀ results, (afterFragments w mainPending (.ok results)).phase =
      if mainPending || w.mainRunning then .main else .tracking) ∧
    (∀ cause, (afterFragments w mainPending (.error cause)).phase = .fragments) ∧
    (afterMain w).phase = .tracking ∧
    ∀ (threshold interval timeout : Nat) (tally : Tally),
      (tally.isIdle? = some true → w.daemon = false → threshold ≤ maxPolls →
        (threshold - 1) * max 1 interval ≤ timeout →
        (∀ results, (mainPending || w.mainRunning) = false →
          (wait threshold interval timeout []
            ⟨afterFragments w mainPending (.ok results), tally⟩).1 =
              .terminated ((threshold - 1) * max 1 interval)) ∧
        (wait threshold interval timeout [] ⟨afterMain w, tally⟩).1 =
          .terminated ((threshold - 1) * max 1 interval)) ∧
      ∀ cause changes, (∀ t ∈ changes, t.change.isTransition = false) →
        (wait threshold interval timeout changes
          ⟨afterFragments w mainPending (.error cause), tally⟩).1 = .timedOut timeout := by
  refine ⟨⟨runFragments_eq submit settings fragments mainPending w world,
    runMain_eq submit settings source name w world⟩, ?_, ?_, ?_, ?_, ?_⟩
  · intro answer hanswer
    exact submitFragments_of_ok hanswer _ fragments 1 world
  · intro results
    rw [afterFragments_ok hphase, phaseAfter]
  · intro cause
    rw [afterFragments_error hphase]
  · rw [afterMain_eq hphase]
  · intro threshold interval timeout tally
    refine ⟨fun hidle hdaemon hthreshold htime => ⟨fun results hmain => ?_, ?_⟩,
      fun cause changes hnone => ?_⟩
    · rw [afterFragments_ok hphase, phaseAfter, hmain]
      exact wait_of_isTracking (by simp [Watchdog.isTracking, Watchdog.reset, hdaemon]) rfl hidle
        hthreshold htime
    · rw [afterMain_eq hphase]
      exact wait_of_isTracking (by simp [Watchdog.isTracking, Watchdog.reset, hdaemon]) rfl hidle
        hthreshold htime
    · rw [afterFragments_error hphase]
      exact timedOut_of_fragments rfl threshold interval timeout tally hnone

/-- A host on which every submission of source runs out of time but that of "return". -/
def stalled : Submit Id Nat := fun source _ limit world =>
  if source = "return" then (.ok ⟨.ok .null, 0⟩, world + 1)
  else (.error (.executionTimeout world (limit * 1000)), world + 1)

/-- The second of three fragments runs out of time.  The phase stays, and the wait at the end comes
to nothing. -/
theorem fragments_of_stalled_host :
    let run := runFragments stalled .standard ["return", "while true do end", "return"] false
      (.start, 1)
    run.1.toOption.isNone = true ∧ run.2.1.phase = .fragments ∧ run.2.2 = 3 ∧
      (wait 3 100 30000 [] ⟨run.2.1, .zero⟩).1 = .timedOut 30000 := by
  intro run
  obtain ⟨-, -, -, hfragments, -, hwaits⟩ := fragments_end_unless_host_fails stalled .standard
    ["return", "while true do end", "return"] false "" "" (w := .start) (by decide) 1
  have hrun : run.2.1 = afterFragments .start false (.error (.executionTimeout 2 30000000)) := rfl
  rw [hrun]
  exact ⟨rfl, hfragments _, rfl, (hwaits 3 100 30000 .zero).2 _ [] nofun⟩

/-- The phase of the fragments is not left by every run of fragments that returns. -/
theorem phase_left_open_by_timeout :
    ¬∀ (ω : Type) (submit : Submit Id ω) (settings : HostSettings) (fragments : List String)
      (mainPending : Bool) (w : Watchdog) (world : ω), w.phase ≠ .interactive →
        (runFragments submit settings fragments mainPending (w, world)).2.1.phase =
          if mainPending || w.mainRunning then .main else .tracking := by
  intro h
  have hphase := h Nat stalled .standard ["while true do end"] false .start 1 (by decide)
  exact absurd hphase (by decide)

end Scripts
end ScriptHost
