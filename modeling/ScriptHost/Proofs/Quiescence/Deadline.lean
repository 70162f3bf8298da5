import ScriptHost.Proofs.Quiescence.Polls
import ScriptHost.Proofs.Quiescence.Sums
import ScriptHost.Quiescence.Wait

/-!
# Polls against a deadline

A wait is a task with two parts.  Its loop polls the watchdog and sleeps for the interval, again and
again until a poll answers "over"; and around it there is a deadline.  Whenever the task is looked at,
the loop comes first and the deadline second.  `watch` follows the task from one millisecond to the
next.

What an endless row of polls at equal intervals would come to (`verdict`) decides how it ends
(`EndsBy`): with the first poll by the deadline after which the run does not go on, because it answers
"over" or panics, or at the deadline if there is none.  The wait of `Wait.lean`, which computes the
number of polls beforehand, ends in the same way (`wait_eq_watch`).
-/

namespace ScriptHost.Quiescence

/-! ## The task -/

/-- How a poll at a time ends a wait, if it does. -/
def Verdict.waitEnd? (time : Nat) : Verdict → Option WaitEnd
  | ended => some (.terminated time)
  | goesOn => none
  | panicked => some (.panicked time)

theorem Verdict.waitEnd?_eq_none_iff {time : Nat} {v : Verdict} :
    v.waitEnd? time = none ↔ v = .goesOn := by
  cases v <;> simp [waitEnd?]

/-- The task of a wait. -/
structure Task where
  /-- When the loop has slept enough. -/
  wakes : Nat
  /-- How many polls have been made. -/
  polls : Nat
  /-- What is still to happen to the world. -/
  changes : List Timed
  world : Watched

namespace Task

/-- The task at its beginning: the loop polls at once. -/
def start (changes : List Timed) (s : Watched) : Task := ⟨0, 0, changes, s⟩

/-- What is due happens to the world. -/
def meet (now : Nat) (t : Task) : Task :=
  { t with
    changes := (applyWhile (· ≤ now) t.world t.changes).1
    world := (applyWhile (· ≤ now) t.world t.changes).2 }

/-- The loop is looked at: if it has slept enough it polls, and if the run goes on it goes to sleep
again. -/
def poll (threshold interval now : Nat) (t : Task) : Verdict × Task :=
  if t.wakes ≤ now then
    ((t.world.poll threshold).1,
      { t with world := (t.world.poll threshold).2, polls := t.polls + 1, wakes := now + interval })
  else (.goesOn, t)

end Task

/-- The task is looked at in each millisecond until it ends, `left` milliseconds before its deadline
at first. -/
def watch (threshold interval : Nat) : Nat → Nat → Task → WaitEnd × Task
  | left, now, t =>
      match (t.meet now).poll threshold interval now, left with
      | (.ended, t), _ => (.terminated now, t)
      | (.panicked, t), _ => (.panicked now, t)
      | (.goesOn, t), 0 => (.timedOut now, t)
      | (.goesOn, t), left + 1 => watch threshold interval left (now + 1) t

theorem watch_of_end {threshold interval left now : Nat} {t : Task} {how : WaitEnd}
    (hend : ((t.meet now).poll threshold interval now).1.waitEnd? now = some how) :
    watch threshold interval left now t =
      (how, ((t.meet now).poll threshold interval now).2) := by
  unfold watch
  rcases hpoll : (t.meet now).poll threshold interval now with ⟨verdict, t'⟩
  rw [hpoll] at hend
  cases verdict with
  | goesOn => cases hend
  | ended | panicked =>
      obtain rfl := Option.some.inj hend
      rfl

theorem watch_of_deadline {threshold interval now : Nat} {t : Task}
    (hgoes : ((t.meet now).poll threshold interval now).1 = .goesOn) :
    watch threshold interval 0 now t =
      (.timedOut now, ((t.meet now).poll threshold interval now).2) := by
  unfold watch
  rcases hpoll : (t.meet now).poll threshold interval now with ⟨verdict, t'⟩
  rw [hpoll] at hgoes
  cases hgoes
  rfl

theorem watch_of_goesOn {threshold interval left now : Nat} {t : Task}
    (hgoes : ((t.meet now).poll threshold interval now).1 = .goesOn) :
    watch threshold interval (left + 1) now t =
      watch threshold interval left (now + 1) ((t.meet now).poll threshold interval now).2 := by
  conv => lhs; unfold watch
  rcases hpoll : (t.meet now).poll threshold interval now with ⟨verdict, t'⟩
  rw [hpoll] at hgoes
  cases hgoes
  rfl

/-! ## Endless polls -/

/-- Changes that are due later may be applied later. -/
theorem applyWhile_applyWhile {early late : Nat} (hle : early ≤ late) (changes : List Timed) :
    ∀ s : Watched,
      applyWhile (· ≤ late) (applyWhile (· ≤ early) s changes).2
        (applyWhile (· ≤ early) s changes).1 = applyWhile (· ≤ late) s changes := by
  induction changes with
  | nil => exact fun _ => rfl
  | cons t rest ih =>
      intro s
      by_cases hdue : t.time ≤ early
      · have hlate : t.time ≤ late := Nat.le_trans hdue hle
        simp only [applyWhile, hdue, hlate, decide_true, if_true]
        exact ih _
      · simp only [applyWhile, hdue, decide_false, Bool.false_eq_true, if_false]

section Endless

variable (threshold interval : Nat) (changes : List Timed) (s : Watched)

/-- What is still to happen, and the world, right before each of endless polls at equal intervals. -/
def beforePoll : Nat → List Timed × Watched
  | 0 => applyWhile (· ≤ 0) s changes
  | k + 1 =>
      applyWhile (· ≤ (k + 1) * interval) ((beforePoll k).2.poll threshold).2 (beforePoll k).1

/-- What a poll comes to. -/
def verdict (k : Nat) : Verdict := ((beforePoll threshold interval changes s k).2.poll threshold).1

end Endless

/-! ## How polling ends -/

/-- From some poll on, polling at intervals ends with the first poll by the deadline after which the
run does not go on, or at the deadline if there is none; so many polls have been made in all. -/
def EndsBy (b : Nat → Verdict) (interval timeout k : Nat) (how : WaitEnd) (polls : Nat) : Prop :=
  (∃ j, k ≤ j ∧ j * interval ≤ timeout ∧ (b j).waitEnd? (j * interval) = some how ∧
      (∀ i, k ≤ i → i < j → b i = .goesOn) ∧ polls = j + 1) ∨
    (∀ j, k ≤ j → j * interval ≤ timeout → b j = .goesOn) ∧
      how = .timedOut timeout ∧ polls = timeout / interval + 1

namespace EndsBy

variable {b : Nat → Verdict} {interval timeout k polls : Nat} {how : WaitEnd}

theorem of_end (hb : (b k).waitEnd? (k * interval) = some how) (hle : k * interval ≤ timeout) :
    EndsBy b interval timeout k how (k + 1) :=
  .inl ⟨k, Nat.le_refl k, hle, hb, fun _ hk hi => absurd hk (Nat.not_le_of_lt hi), rfl⟩

/-- The deadline comes before the next poll. -/
theorem of_deadline (hlate : timeout < k * interval) (hmade : k * interval ≤ timeout + interval) :
    EndsBy b interval timeout k (.timedOut timeout) k := by
  refine .inr ⟨fun j hj hdue => ?_, rfl, ?_⟩
  · have hmono : k * interval ≤ j * interval := Nat.mul_le_mul_right interval hj
    omega
  · cases k with
    | zero => exact absurd hlate (by omega)
    | succ k =>
        rw [Nat.div_eq_of_lt_le (by rw [Nat.add_one_mul] at hmade; omega) hlate]

theorem of_goesOn (hb : b k = .goesOn) (hrest : EndsBy b interval timeout (k + 1) how polls) :
    EndsBy b interval timeout k how polls := by
  have hcases {i : Nat} (hi : k ≤ i) (hnext : k + 1 ≤ i → b i = .goesOn) : b i = .goesOn := by
    rcases Nat.eq_or_lt_of_le hi with rfl | hlt
    · exact hb
    · exact hnext hlt
  rcases hrest with ⟨j, hj, hdue, hend, hfirst, hpolls⟩ | ⟨hnone, hhow, hpolls⟩
  · exact .inl ⟨j, Nat.le_of_succ_le hj, hdue, hend,
      fun i hi hlt => hcases hi fun hnext => hfirst i hnext hlt, hpolls⟩
  · exact .inr ⟨fun j hj hdue => hcases hj fun hnext => hnone j hnext hdue, hhow, hpolls⟩

/-- The first poll by the deadline after which the run does not go on is the end. -/
theorem of_first (h : EndsBy b interval timeout 0 how polls) (hle : k * interval ≤ timeout)
    {how' : WaitEnd} (hb : (b k).waitEnd? (k * interval) = some how')
    (hfirst : ∀ j, j < k → b j = .goesOn) : how = how' ∧ polls = k + 1 := by
  have hstops : b k ≠ .goesOn := fun hgoes => by
    rw [hgoes] at hb
    cases hb
  rcases h with ⟨j, -, -, hend, hbefore, hpolls⟩ | ⟨hnone, -⟩
  · rcases Nat.lt_trichotomy j k with hlt | rfl | hgt
    · rw [hfirst j hlt] at hend
      cases hend
    · exact ⟨Option.some.inj (hend.symm.trans hb), hpolls⟩
    · exact absurd (hbefore k (Nat.zero_le k) hgt) hstops
  · exact absurd (hnone k (Nat.zero_le k) hle) hstops

/-- If the run goes on after all polls by the deadline, the deadline is the end. -/
theorem of_none (h : EndsBy b interval timeout 0 how polls)
    (hnone : ∀ k, k * interval ≤ timeout → b k = .goesOn) :
    how = .timedOut timeout ∧ polls = timeout / interval + 1 := by
  rcases h with ⟨j, -, hdue, hend, -⟩ | ⟨-, hend⟩
  · rw [hnone j hdue] at hend
    cases hend
  · exact hend

/-- There is only one such end. -/
theorem unique (h : EndsBy b interval timeout 0 how polls) {how' : WaitEnd} {polls' : Nat}
    (h' : EndsBy b interval timeout 0 how' polls') : how = how' := by
  rcases h with ⟨j, -, hdue, hend, hfirst, -⟩ | ⟨hnone, rfl, -⟩
  · exact (h'.of_first hdue hend fun i hi => hfirst i (Nat.zero_le i) hi).1.symm
  · exact (h'.of_none fun k hdue => hnone k (Nat.zero_le k) hdue).1.symm

end EndsBy

section Waits

variable {threshold p : Nat} {changes : List Timed} {s : Watched}

/-- The task is to make its poll number `k` when the loop has slept enough, and the poll will find
the world as that of endless polls does. -/
structure Task.Before (threshold p : Nat) (changes : List Timed) (s : Watched) (now k : Nat)
    (t : Task) : Prop where
  polls : t.polls = k
  wakes : t.wakes = k * p
  ahead : now ≤ k * p
  near : k * p < now + p
  world : applyWhile (· ≤ k * p) t.world t.changes = beforePoll threshold p changes s k

namespace Task.Before

variable {now k : Nat} {t : Task}

theorem start (hp : 0 < p) :
    Task.Before threshold p changes s 0 0 (.start changes s) := by
  constructor
  case polls => rfl
  case wakes => exact (Nat.zero_mul p).symm
  case ahead => exact Nat.zero_le _
  case near => rwa [Nat.zero_mul, Nat.zero_add]
  case world => rw [Nat.zero_mul]; rfl

/-- While the loop sleeps nothing but the world changes. -/
theorem asleep (h : Task.Before threshold p changes s now k t) (hnow : now < k * p) :
    (t.meet now).poll threshold p now = (.goesOn, t.meet now) ∧
      Task.Before threshold p changes s (now + 1) k (t.meet now) := by
  refine ⟨if_neg (show ¬ t.wakes ≤ now by rw [h.wakes]; omega), ?_⟩
  constructor
  case polls => exact h.polls
  case wakes => exact h.wakes
  case ahead => exact hnow
  case near => have := h.near; omega
  case world => exact (applyWhile_applyWhile h.ahead t.changes t.world).trans h.world

/-- The loop awakes: its poll comes to the same as that among endless polls, and the next one is an
interval away. -/
theorem awake (h : Task.Before threshold p changes s now k t) (hp : 0 < p) (hnow : now = k * p) :
    ((t.meet now).poll threshold p now).1 = verdict threshold p changes s k ∧
      ((t.meet now).poll threshold p now).2.polls = k + 1 ∧
      Task.Before threshold p changes s (now + 1) (k + 1)
        ((t.meet now).poll threshold p now).2 := by
  have hmeet : applyWhile (· ≤ now) t.world t.changes = beforePoll threshold p changes s k := by
    subst hnow
    exact h.world
  have hpoll : (t.meet now).poll threshold p now =
      (((t.meet now).world.poll threshold).1,
        { t.meet now with
          world := ((t.meet now).world.poll threshold).2
          polls := t.polls + 1
          wakes := now + p }) :=
    if_pos (Nat.le_of_eq (h.wakes.trans hnow.symm))
  rw [hpoll]
  refine ⟨?_, ?_, ?_⟩
  · rw [verdict, ← hmeet]
    rfl
  · exact congrArg (· + 1) h.polls
  · have hnext : (k + 1) * p = now + p := by rw [hnow, Nat.add_one_mul]
    constructor
    case polls => exact congrArg (· + 1) h.polls
    case wakes => exact hnext.symm
    case ahead => rw [hnext]; omega
    case near => rw [hnext]; omega
    case world => rw [beforePoll, ← hmeet]; rfl

end Task.Before

/-- The task ends as its polls say. -/
theorem endsBy_watch (hp : 0 < p) (left : Nat) :
    ∀ {now k : Nat} {t : Task}, Task.Before threshold p changes s now k t →
      EndsBy (verdict threshold p changes s) p (now + left) k (watch threshold p left now t).1
        (watch threshold p left now t).2.polls := by
  induction left with
  | zero =>
      intro now k t h
      rcases Nat.eq_or_lt_of_le h.ahead with hnow | hnow
      · obtain ⟨hverdict, hpolls, hnext⟩ := h.awake hp hnow
        cases hend : (verdict threshold p changes s k).waitEnd? now with
        | some how =>
            rw [watch_of_end ((congrArg _ hverdict).trans hend), hpolls]
            rw [hnow] at hend
            exact .of_end hend (hnow ▸ Nat.le_add_right _ _)
        | none =>
            have hgoes := Verdict.waitEnd?_eq_none_iff.1 hend
            rw [watch_of_deadline (hverdict.trans hgoes), hpolls]
            exact .of_goesOn hgoes (.of_deadline hnext.ahead (by have := hnext.near; omega))
      · obtain ⟨hasleep, hnext⟩ := h.asleep hnow
        rw [watch_of_deadline (congrArg Prod.fst hasleep), hasleep]
        have hpolls : (t.meet now).polls = k := hnext.polls
        rw [hpolls]
        exact .of_deadline hnow (Nat.le_of_lt h.near)
  | succ left ih =>
      intro now k t h
      have htime : now + 1 + left = now + (left + 1) := by omega
      rcases Nat.eq_or_lt_of_le h.ahead with hnow | hnow
      · obtain ⟨hverdict, hpolls, hnext⟩ := h.awake hp hnow
        cases hend : (verdict threshold p changes s k).waitEnd? now with
        | some how =>
            rw [watch_of_end ((congrArg _ hverdict).trans hend), hpolls]
            rw [hnow] at hend
            exact .of_end hend (hnow ▸ Nat.le_add_right _ _)
        | none =>
            have hgoes := Verdict.waitEnd?_eq_none_iff.1 hend
            rw [watch_of_goesOn (hverdict.trans hgoes), ← htime]
            exact .of_goesOn hgoes (ih hnext)
      · obtain ⟨hasleep, hnext⟩ := h.asleep hnow
        rw [watch_of_goesOn (congrArg Prod.fst hasleep), hasleep, ← htime]
        exact ih hnext

theorem pollAt_eq {k time : Nat} {rest : List Timed} {w : Watched}
    (hworld : applyWhile (· ≤ time) w rest = beforePoll threshold p changes s k) :
    pollAt threshold time rest w =
      (verdict threshold p changes s k, (beforePoll threshold p changes s k).1,
        ((beforePoll threshold p changes s k).2.poll threshold).2) := by
  rw [pollAt, hworld]
  rfl

/-- So does the wait that computes the number of polls beforehand. -/
theorem endsBy_waitFrom (hp : 0 < p) {timeout : Nat} (left : Nat) :
    ∀ {k : Nat} {rest : List Timed} {w : Watched}, k + left = timeout / p →
      applyWhile (· ≤ k * p) w rest = beforePoll threshold p changes s k →
      ∃ made, EndsBy (verdict threshold p changes s) p timeout k
        (waitFrom threshold p timeout left (k * p) rest w).1 made := by
  induction left with
  | zero =>
      intro k rest w hcount hworld
      have hlast : k * p ≤ timeout := (Nat.le_div_iff_mul_le hp).1 (by omega)
      have hlate : timeout < (k + 1) * p := (Nat.div_lt_iff_lt_mul hp).1 (by omega)
      unfold waitFrom
      rw [pollAt_eq hworld]
      cases hverdict : verdict threshold p changes s k with
      | ended | panicked => exact ⟨_, .of_end (congrArg _ hverdict) hlast⟩
      | goesOn =>
          exact ⟨_, .of_goesOn hverdict (.of_deadline hlate (by rw [Nat.add_one_mul]; omega))⟩
  | succ left ih =>
      intro k rest w hcount hworld
      have hlast : k * p ≤ timeout := (Nat.le_div_iff_mul_le hp).1 (by omega)
      unfold waitFrom
      rw [pollAt_eq hworld]
      cases hverdict : verdict threshold p changes s k with
      | ended | panicked => exact ⟨_, .of_end (congrArg _ hverdict) hlast⟩
      | goesOn =>
          obtain ⟨made, hrest⟩ := ih (k := k + 1) (by omega) rfl
          rw [Nat.add_one_mul] at hrest
          exact ⟨made, .of_goesOn hverdict hrest⟩

variable (threshold p changes s)

/-- The wait ends as the task does. -/
theorem wait_eq_watch (interval timeout : Nat) :
    (wait threshold interval timeout changes s).1 =
      (watch threshold (max 1 interval) timeout 0 (.start changes s)).1 := by
  have hp : 0 < max 1 interval := by omega
  have htask := endsBy_watch hp timeout
    (.start hp : Task.Before threshold (max 1 interval) changes s 0 0 (.start changes s))
  have hbegins : applyWhile (· ≤ 0 * max 1 interval) s changes =
      beforePoll threshold (max 1 interval) changes s 0 := by
    rw [Nat.zero_mul]
    rfl
  obtain ⟨made, hwait⟩ := endsBy_waitFrom hp (timeout / max 1 interval) (Nat.zero_add _) hbegins
  rw [Nat.zero_add] at htask
  rw [Nat.zero_mul] at hwait
  exact hwait.unique htask

end Waits

/-! ## A run that is over already -/

section Idle

variable {threshold : Nat} {w : Watchdog} {tally : Tally}

namespace Watchdog

/-- The last of the polls, split off. -/
theorem pollAgain_succ (n : Nat) :
    ∀ w : Watchdog,
      pollAgain threshold tally (n + 1) w = ((pollAgain threshold tally n w).poll threshold tally).2 := by
  induction n with
  | zero => exact fun _ => rfl
  | succ n ih => exact fun w => ih (w.poll threshold tally).2

/-- After a reset the streak is as long as the number of polls since. -/
theorem streak_pollAgain (htracking : w.isTracking = true) (hfresh : w = w.reset) (n : Nat) :
    (pollAgain threshold tally n w).streak tally = min n maxPolls := by
  induction n with
  | zero =>
      rw [hfresh]
      rfl
  | succ n ih =>
      rw [pollAgain_succ, streak_poll ((isTracking_pollAgain _ _ n w).trans htracking), ih]
      omega

end Watchdog

theorem beforePoll_nil (threshold interval : Nat) (s : Watched) (k : Nat) :
    beforePoll threshold interval [] s k =
      ([], { s with watchdog := s.watchdog.pollAgain threshold s.tally k }) := by
  induction k with
  | zero => rfl
  | succ k ih =>
      rw [beforePoll, ih, Watchdog.pollAgain_succ]
      rfl

/-- With nothing outstanding the run goes on until the threshold is reached, and no poll panics. -/
theorem verdict_idle {s : Watched} (htracking : s.watchdog.isTracking = true)
    (hfresh : s.watchdog = s.watchdog.reset) (hidle : s.tally = .zero)
    (hthreshold : threshold ≤ maxPolls) (interval k : Nat) :
    verdict threshold interval [] s k = if threshold ≤ k + 1 then .ended else .goesOn := by
  have hpolled := (Watchdog.isTracking_pollAgain threshold s.tally k s.watchdog).trans htracking
  have hzero : s.tally.isIdle? = some true := Tally.isIdle?_iff.2 hidle
  have hstreak : (s.watchdog.pollAgain threshold s.tally k).streak s.tally = min k maxPolls :=
    Watchdog.streak_pollAgain htracking hfresh k
  rw [verdict, beforePoll_nil]
  split
  case isTrue hreached => exact (Watchdog.over_iff hpolled).2 ⟨hzero, by rw [hstreak]; omega⟩
  case isFalse hshort =>
    exact Watchdog.goesOn_of_idle hpolled hzero (by rw [hstreak]; omega)

end Idle

/-- A wait ends with the first poll by the deadline that answers "over", and makes no other poll after
it; a poll that is due right at the deadline is among them.  If none of them does, all are made and the
wait fails at the deadline.  A poll that panics before any has answered "over" is the last one, too,
and the wait returns nothing.  In particular, if the watchdog starts anew and the run is over already,
the wait takes as many polls as the threshold asks for, and one at least. -/
theorem wait_ends_with_first_success (threshold : UInt32) (interval timeout : Nat)
    (changes : List Timed) (s : Watched) :
    let p := max 1 interval
    let b := verdict threshold.toNat p changes s
    let ended := watch threshold.toNat p timeout 0 (.start changes s)
    (wait threshold.toNat interval timeout changes s).1 = ended.1 ∧
      (∀ k, k * p ≤ timeout → b k = .ended → (∀ j, j < k → b j = .goesOn) →
        ended.1 = .terminated (k * p) ∧ ended.2.polls = k + 1 ∧
          ended.1.result? = some (.ok ())) ∧
      ((∀ k, k * p ≤ timeout → b k = .goesOn) →
        ended.1 = .timedOut timeout ∧ ended.2.polls = timeout / p + 1 ∧
          ended.1.result? = some (.error (.shutdownTimeout (timeout * 1000)))) ∧
      (∀ k, k * p ≤ timeout → b k = .panicked → (∀ j, j < k → b j = .goesOn) →
        ended.1 = .panicked (k * p) ∧ ended.2.polls = k + 1 ∧ ended.1.result? = none) ∧
      (s.watchdog.isTracking = true → s.watchdog = s.watchdog.reset → s.tally = .zero →
        changes = [] →
        ended.1 =
          if (max 1 threshold.toNat - 1) * p ≤ timeout then
            .terminated ((max 1 threshold.toNat - 1) * p)
          else .timedOut timeout) := by
  intro p b ended
  have hp : 0 < p := Nat.lt_of_lt_of_le Nat.one_pos (Nat.le_max_left 1 interval)
  have hends : EndsBy b p timeout 0 ended.1 ended.2.polls := by
    have h := endsBy_watch hp timeout
      (.start hp : Task.Before threshold.toNat p changes s 0 0 (.start changes s))
    rwa [Nat.zero_add] at h
  refine ⟨wait_eq_watch threshold.toNat changes s interval timeout, ?first, ?none, ?panics, ?idle⟩
  case first =>
    intro k hdue hover hfirst
    obtain ⟨hhow, hpolls⟩ := hends.of_first hdue (congrArg _ hover) hfirst
    exact ⟨hhow, hpolls, by rw [hhow]; rfl⟩
  case none =>
    intro hnone
    obtain ⟨hhow, hpolls⟩ := hends.of_none hnone
    exact ⟨hhow, hpolls, by rw [hhow]; rfl⟩
  case panics =>
    intro k hdue hpanics hfirst
    obtain ⟨hhow, hpolls⟩ := hends.of_first hdue (congrArg _ hpanics) hfirst
    exact ⟨hhow, hpolls, by rw [hhow]; rfl⟩
  case idle =>
    rintro htracking hfresh hidle rfl
    have hb : ∀ k, b k = if threshold.toNat ≤ k + 1 then .ended else .goesOn :=
      verdict_idle htracking hfresh hidle (Nat.le_of_lt_succ threshold.toNat_lt) p
    have hearly {k : Nat} (hk : k < max 1 threshold.toNat - 1) : b k = .goesOn := by
      rw [hb, if_neg (by omega)]
    -- The poll that reaches the threshold is the first to end the wait, if it is due by the deadline.
    split
    case isTrue hdue =>
      have hover : b (max 1 threshold.toNat - 1) = .ended := by rw [hb, if_pos (by omega)]
      exact (hends.of_first hdue (congrArg _ hover) fun j hj => hearly hj).1
    case isFalse hlate =>
      refine (hends.of_none fun k hdue => hearly (Nat.lt_of_not_le fun hge => hlate ?_)).1
      exact Nat.le_trans (Nat.mul_le_mul_right p hge) hdue

/-- A run whose main script is done, with this tally. -/
def tracked (tally : Tally) : Watched := ⟨⟨.tracking, false, false, none, 0⟩, tally⟩

/-- A timer is active for three milliseconds, and polls are two apart: a wait of four ends with its last
poll, right at the deadline, and a wait of three in vain.  If nothing is outstanding, two milliseconds
are enough for three polls that follow each other at once. -/
theorem last_poll_at_deadline :
    let timer : Watched := tracked ⟨0, 1, 0, 0, 0, 0⟩
    let stops : List Timed := [⟨3, .setTally .zero⟩]
    (wait 1 2 4 stops timer).1 = .terminated 4 ∧
      (watch 1 2 4 0 (.start stops timer)).2.polls = 3 ∧
      (wait 1 2 3 stops timer).1 = .timedOut 3 ∧
      (watch 1 2 3 0 (.start stops timer)).2.polls = 2 ∧
      (wait 3 0 2 [] (tracked .zero)).1 = .terminated 2 := by
  intro timer stops
  have hpending : ∀ k, k < 2 → verdict 1 2 stops timer k = .goesOn := by decide
  obtain ⟨hwait, hfirst, -⟩ := wait_ends_with_first_success 1 2 4 stops timer
  obtain ⟨hhow, hpolls, -⟩ := hfirst 2 (by decide) (by decide) hpending
  obtain ⟨hwait', -, hnone, -⟩ := wait_ends_with_first_success 1 2 3 stops timer
  obtain ⟨hhow', hpolls', -⟩ := hnone fun k hdue =>
    hpending k (by change k * 2 ≤ 3 at hdue; omega)
  obtain ⟨hwait'', -, -, -, hidle⟩ := wait_ends_with_first_success 3 0 2 [] (tracked .zero)
  exact ⟨hwait.trans hhow, hpolls, hwait'.trans hhow', hpolls',
    hwait''.trans (hidle (by decide) (by decide) rfl rfl)⟩

end ScriptHost.Quiescence
