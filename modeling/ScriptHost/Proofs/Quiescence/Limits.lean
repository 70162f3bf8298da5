import ScriptHost.Proofs.Quiescence.Counts
import ScriptHost.Proofs.Quiescence.Decision

/-!
# Idleness at the limits of a word

Each count of a tally is a word of its own, so the six of them may come to more than a word holds.
Where additions are checked, such a tally has no total, and a poll that looks at it panics.

A host can also be built without these checks.  An addition then drops what goes beyond a word
(`wrapped`), which is a multiple of the word size; if nothing is left beside it (`Wraps`), the tally is
idle with work outstanding.

A source of tallies may report anything at any poll: in a history it is whatever sets the tally
between two polls.  The main statement says of each tally how far its sum can be trusted, and whether
a run can end on it, for either way to build a host.
-/

namespace ScriptHost.Quiescence
namespace Tally

/-! ## Adding up without checks -/

/-- The sum of the six counts without what goes beyond a word. -/
def wrapped (t : Tally) : UInt64 :=
  t.backgroundTasks + t.activeTimers + t.networkOperations + t.openConnections +
    t.openListeners + t.queuedCallbacks

/-- Whether a tally counts as idle where additions are not checked. -/
def wrapsIdle? (t : Tally) : Option Bool := some (decide (t.wrapped = 0))

theorem toNat_wrapped (t : Tally) : t.wrapped.toNat = t.sum % UInt64.size := by
  simp only [wrapped, sum, UInt64.toNat_add, UInt64.size]
  omega

/-- The counts, in the order in which they are added up. -/
def words (t : Tally) : List UInt64 := Count.order.map t.count

/-- What the first counts add up to, as a machine word. -/
def subtotal (t : Tally) (n : Nat) : UInt64 := (t.words.take n).foldl (· + ·) 0

/-- What the first counts come to, beyond the size of a word. -/
def subsum (t : Tally) (n : Nat) : Nat := together ((t.words.take n).map UInt64.toNat)

theorem toNat_foldl_add (words : List UInt64) : ∀ start : UInt64,
    (words.foldl (· + ·) start).toNat =
      (start.toNat + together (words.map UInt64.toNat)) % UInt64.size := by
  induction words with
  | nil => exact fun start => (Nat.mod_eq_of_lt start.toNat_lt_size).symm
  | cons word words ih =>
      intro start
      rw [List.foldl_cons, ih, UInt64.toNat_add, List.map_cons, together, ← Nat.add_assoc]
      exact Nat.mod_add_mod _ _ _

theorem toNat_subtotal (t : Tally) (n : Nat) :
    (t.subtotal n).toNat = t.subsum n % UInt64.size := by
  rw [subtotal, toNat_foldl_add, UInt64.toNat_zero, Nat.zero_add, subsum]

theorem subsum_length_words (t : Tally) : t.subsum t.words.length = t.sum := by
  simp [subsum, together, words, Count.order, count, sum, Nat.add_assoc]

/-- The last of the subtotals is the total. -/
theorem subtotal_length_words (t : Tally) : t.subtotal t.words.length = t.wrapped := by
  rw [← UInt64.toNat_inj, toNat_subtotal, subsum_length_words, toNat_wrapped]

theorem subsum_le_sum (t : Tally) (n : Nat) : t.subsum n ≤ t.sum := by
  rw [← subsum_length_words, subsum, subsum, List.take_length]
  conv => rhs; rw [← List.take_append_drop n t.words, List.map_append, together_append]
  exact Nat.le_add_right _ _

theorem wrapped_exact_iff (t : Tally) : t.wrapped.toNat = t.sum ↔ t.Fits := by
  constructor
  · intro hexact
    calc t.sum = t.wrapped.toNat := hexact.symm
      _ < UInt64.size := t.wrapped.toNat_lt_size
  · intro hfits
    rw [toNat_wrapped, Nat.mod_eq_of_lt hfits]

/-- No addition on the way goes beyond a word exactly if the last one does not. -/
theorem subtotals_exact_iff (t : Tally) :
    (∀ n, (t.subtotal n).toNat = t.subsum n) ↔ t.Fits := by
  constructor
  · intro hexact
    rw [← wrapped_exact_iff, ← subtotal_length_words, ← subsum_length_words]
    exact hexact t.words.length
  · intro hfits n
    have hless : t.subsum n < UInt64.size := Nat.lt_of_le_of_lt (t.subsum_le_sum n) hfits
    rw [toNat_subtotal, Nat.mod_eq_of_lt hless]

/-! ## Tallies that wrap to zero -/

/-- Something is outstanding, but the counts come to a multiple of the word size. -/
def Wraps (t : Tally) : Prop := t ≠ zero ∧ UInt64.size ∣ t.sum

instance (t : Tally) : Decidable t.Wraps := inferInstanceAs (Decidable (_ ∧ _))

/-- The wrapped sum is zero if the counts come to a multiple of the word size. -/
theorem wrapped_eq_zero_iff (t : Tally) : t.wrapped = 0 ↔ t = zero ∨ t.Wraps := by
  rw [← UInt64.toNat_inj, toNat_wrapped, UInt64.toNat_zero, ← Nat.dvd_iff_mod_eq_zero]
  by_cases hzero : t = zero
  · simp [hzero, zero, sum]
  · simp [hzero, Wraps]

theorem wrapsIdle?_iff (t : Tally) : t.wrapsIdle? = some true ↔ t = zero ∨ t.Wraps := by
  rw [wrapsIdle?, Option.some.injEq, decide_eq_true_eq, wrapped_eq_zero_iff]

theorem wrapped_zero_exact_iff (t : Tally) : (t.wrapped = 0 ↔ t = zero) ↔ ¬t.Wraps := by
  rw [wrapped_eq_zero_iff, or_iff_left_iff_imp]
  exact ⟨fun h hwraps => hwraps.1 (h hwraps), fun h hwraps => absurd hwraps h⟩

theorem sum_lt (t : Tally) : t.sum < 6 * UInt64.size := by
  have hb := t.backgroundTasks.toNat_lt_size
  have ht := t.activeTimers.toNat_lt_size
  have hn := t.networkOperations.toNat_lt_size
  have hc := t.openConnections.toNat_lt_size
  have hl := t.openListeners.toNat_lt_size
  have hq := t.queuedCallbacks.toNat_lt_size
  rw [sum]
  omega

/-- Six words come to less than six times the word size, so only five sums wrap to zero. -/
theorem wraps_iff (t : Tally) :
    t.Wraps ↔ ∃ k, 1 ≤ k ∧ k ≤ 5 ∧ t.sum = k * UInt64.size := by
  rw [Wraps, Ne, ← sum_eq_zero_iff]
  constructor
  · rintro ⟨hsome, k, hk⟩
    have hlt := t.sum_lt
    have hpositive : k ≠ 0 := fun hzero => hsome (by rw [hk, hzero, Nat.mul_zero])
    rw [hk, Nat.mul_comm] at hlt
    have hless : k < 6 := Nat.lt_of_mul_lt_mul_right hlt
    exact ⟨k, by omega, by omega, hk.trans (Nat.mul_comm _ _)⟩
  · rintro ⟨k, hk, -, hsum⟩
    refine ⟨fun hzero => ?_, k, hsum.trans (Nat.mul_comm _ _)⟩
    rw [hzero] at hsum
    simp only [UInt64.size] at hsum
    omega

end Tally

namespace Watchdog

/-- What a poll leaves behind does not depend on the test for idle tallies. -/
theorem snd_pollBy (idle? : Tally → Option Bool) (threshold : Nat) (w : Watchdog) (tally : Tally) :
    (w.pollBy idle? threshold tally).2 = (w.poll threshold tally).2 := by
  rw [poll, pollBy, pollBy]
  split <;> rfl

end Watchdog

namespace Watched

variable {threshold : Nat} {idle? : Tally → Option Bool}

/-- Poll where additions are not checked. -/
def pollUnchecked (threshold : Nat) (s : Watched) : Verdict × Watched :=
  let (verdict, watchdog) := s.watchdog.pollBy Tally.wrapsIdle? threshold s.tally
  (verdict, { s with watchdog })

/-! ## Runs that end -/

/-- The main script has completed, and the source has reported one tally at so many polls since. -/
def held (t : Tally) : Nat → List Act
  | 0 =>
      [.change (.setTally t), .change (.transition .completeMain), .change (.transition .startMain)]
  | polls + 1 => .poll :: held t polls

theorem tally_held (t : Tally) (polls : Nat) : (after threshold (held t polls)).tally = t := by
  induction polls with
  | zero => rfl
  | succ polls ih => exact ih

theorem isTracking_held (t : Tally) (polls : Nat) :
    (after threshold (held t polls)).watchdog.isTracking = true := by
  induction polls with
  | zero => rfl
  | succ polls ih => exact (Watchdog.isTracking_poll _ _ _).trans ih

theorem seen_held (t : Tally) (polls : Nat) :
    seen threshold (held t polls) = List.replicate polls t := by
  induction polls with
  | zero => rfl
  | succ polls ih => rw [held, seen, tally_held, ih, List.replicate_succ]

/-- A tally that passes the test ends the run if it is reported for long enough. -/
theorem over_held {t : Tally} (hbound : threshold ≤ maxPolls) (hidle : idle? t = some true) :
    ((after threshold (held t threshold)).watchdog.pollBy idle? threshold
      (after threshold (held t threshold)).tally).1 = .ended := by
  rw [over_iff_seen idle? hbound (isTracking_held t threshold), tally_held]
  refine ⟨hidle, (le_ahead_iff _ _ _).2 ?_⟩
  rw [← held, seen_held]
  exact ⟨by rw [List.length_replicate]; omega,
    fun other hmem => List.eq_of_mem_replicate (List.mem_of_mem_take hmem)⟩

/-- A poll answers "over" exactly if the host tracks, daemon mode is off, its tally passes the test,
and it is the last of enough polls, one at least, that have seen this tally since the last effective
transition or setting of daemon mode. -/
theorem over_iff_take (idle? : Tally → Option Bool) (hbound : threshold ≤ maxPolls)
    (past : List Act) :
    ((after threshold past).watchdog.pollBy idle? threshold (after threshold past).tally).1 =
        .ended ↔
      (after threshold past).watchdog.phase = .tracking ∧
        (after threshold past).watchdog.daemon = false ∧
        idle? (after threshold past).tally = some true ∧
        max 1 threshold ≤ (seen threshold (.poll :: past)).length ∧
        ∀ tally ∈ (seen threshold (.poll :: past)).take (max 1 threshold),
          tally = (after threshold past).tally := by
  rw [← le_ahead_iff, ← and_assoc, ← isTracking_iff]
  constructor
  · intro hover
    have htracking := (Watchdog.of_over hover).1
    exact ⟨htracking, (over_iff_seen idle? hbound htracking).1 hover⟩
  · rintro ⟨htracking, hseen⟩
    exact (over_iff_seen idle? hbound htracking).2 hseen

/-- Some history ends a run on a tally exactly if it passes the test. -/
theorem exists_over_iff (idle? : Tally → Option Bool) (hbound : threshold ≤ maxPolls) (t : Tally) :
    (∃ past : List Act, (after threshold past).tally = t ∧
      ((after threshold past).watchdog.pollBy idle? threshold
        (after threshold past).tally).1 = .ended) ↔ idle? t = some true := by
  constructor
  · rintro ⟨past, rfl, hover⟩
    exact (Watchdog.of_over hover).2
  · exact fun hidle => ⟨held t threshold, tally_held t threshold, over_held hbound hidle⟩

/-- How the polls on a tally end runs, if those that end one pass a test: the histories that come to it
and end with a poll that answers "over" are those that track, outside daemon mode, and have seen it at
enough polls, one at least. -/
structure EndsOn (threshold : Nat) (t : Tally) (verdict : Watched → Verdict) (idle : Prop) : Prop where
  some_iff : (∃ past : List Act, (after threshold past).tally = t ∧
    verdict (after threshold past) = .ended) ↔ idle
  iff : ∀ past : List Act, (after threshold past).tally = t →
    (verdict (after threshold past) = .ended ↔
      (after threshold past).watchdog.phase = .tracking ∧
        (after threshold past).watchdog.daemon = false ∧ idle ∧
        max 1 threshold ≤ (seen threshold (.poll :: past)).length ∧
        ∀ tally ∈ (seen threshold (.poll :: past)).take (max 1 threshold), tally = t)

theorem endsOn {idle : Prop} (hbound : threshold ≤ maxPolls) (t : Tally)
    (hidle : idle? t = some true ↔ idle) :
    EndsOn threshold t (fun s => (s.watchdog.pollBy idle? threshold s.tally).1) idle where
  some_iff := (exists_over_iff idle? hbound t).trans hidle
  iff := by
    rintro past rfl
    exact (over_iff_take idle? hbound past).trans (by rw [hidle])

/-- **Idleness at the limits of a word.**  Where additions are checked, a tally has the sum of its
counts for a total if the sum is a word, and otherwise none.  It is idle exactly if nothing is
outstanding, and no history ends a run on any other; but a poll panics, instead of answering that the
run goes on, exactly if it may end the run and the sum of its tally is no word.

Where additions are not checked, the total is the sum of the counts, and no addition on the way goes
beyond a word, exactly if the sum is a word.  The total is zero for the tally with nothing outstanding
and for tallies that wrap to zero, those whose counts come to one to five times the word size; on
these, too, a run can end.

What a poll leaves behind is the same either way. -/
theorem idleness_exact_iff (threshold : UInt32) (t : Tally) :
    ((∀ total, t.total? = some total ↔ total.toNat = t.sum) ∧ (t.total? = none ↔ ¬t.Fits) ∧
      (t.isIdle? = some true ↔ t = .zero) ∧ (t.isIdle? = none ↔ ¬t.Fits) ∧
      EndsOn threshold.toNat t (fun s => (s.poll threshold.toNat).1) (t = .zero) ∧
      ∀ past : List Act, (after threshold.toNat past).tally = t →
        (((after threshold.toNat past).poll threshold.toNat).1 = .panicked ↔
          (after threshold.toNat past).watchdog.phase = .tracking ∧
            (after threshold.toNat past).watchdog.daemon = false ∧ ¬t.Fits)) ∧
    ((t.wrapped.toNat = t.sum ↔ t.Fits) ∧ ((∀ n, (t.subtotal n).toNat = t.subsum n) ↔ t.Fits) ∧
      ((t.wrapped = 0 ↔ t = .zero) ↔ ¬t.Wraps) ∧
      (t.Wraps ↔ ∃ k, 1 ≤ k ∧ k ≤ 5 ∧ t.sum = k * UInt64.size) ∧
      EndsOn threshold.toNat t (fun s => (s.pollUnchecked threshold.toNat).1)
        (t = .zero ∨ t.Wraps)) ∧
    ∀ s : Watched, (s.pollUnchecked threshold.toNat).2 = (s.poll threshold.toNat).2 := by
  have hbound : threshold.toNat ≤ maxPolls := by
    have := threshold.toNat_lt
    simp only [maxPolls]
    omega
  refine ⟨⟨fun total => Tally.total?_eq_some_iff, Tally.total?_eq_none_iff, Tally.isIdle?_iff,
    Tally.isIdle?_eq_none_iff, endsOn hbound t Tally.isIdle?_iff, ?panics⟩,
    ⟨t.wrapped_exact_iff, t.subtotals_exact_iff, t.wrapped_zero_exact_iff, t.wraps_iff,
      endsOn hbound t t.wrapsIdle?_iff⟩, ?same⟩
  case panics =>
    rintro past rfl
    rw [← and_assoc, ← isTracking_iff, ← Tally.isIdle?_eq_none_iff]
    exact Watchdog.panicked_iff
  case same =>
    intro s
    exact congrArg (Watched.mk · s.tally) (Watchdog.snd_pollBy _ _ _ _)

/-- All counts are as great as they can be. -/
def brimful : Tally :=
  ⟨18446744073709551615, 18446744073709551615, 18446744073709551615, 18446744073709551615,
    18446744073709551615, 18446744073709551615⟩

/-- They cannot be added up, and the tenth poll that sees them panics like those before.  Additions
that are not checked go beyond a word on the way to their total, but they do not wrap to zero: no
history ends a run on them. -/
theorem brimful_ends_no_run :
    brimful.total? = none ∧
      ((after (3 : UInt32).toNat (held brimful 9)).poll (3 : UInt32).toNat).1 = .panicked ∧
      ¬(∀ n, (brimful.subtotal n).toNat = brimful.subsum n) ∧
      (brimful.wrapped = 0 ↔ brimful = .zero) ∧
      ((after (3 : UInt32).toNat (held brimful 9)).pollUnchecked (3 : UInt32).toNat).1 ≠ .ended := by
  obtain ⟨⟨-, hnone, -, -, -, hpanics⟩, ⟨-, hexact, hidle, -, hends⟩, -⟩ :=
    idleness_exact_iff 3 brimful
  have hlarge : ¬brimful.Fits := by decide
  have hkept : ¬(brimful = .zero ∨ brimful.Wraps) := by decide
  exact ⟨hnone.2 hlarge,
    (hpanics (held brimful 9) (tally_held brimful 9)).2 ⟨by decide, by decide, hlarge⟩,
    fun h => hlarge (hexact.1 h), hidle.2 (by decide),
    fun hover => hkept ((hends.iff (held brimful 9) (tally_held brimful 9)).1 hover).2.2.1⟩

/-- Four counts are a quarter of the word size each. -/
def quarters : Tally :=
  ⟨4611686018427387904, 4611686018427387904, 4611686018427387904, 4611686018427387904, 0, 0⟩

/-- Their sum is no word, and the third poll in a row that sees them panics like the first.  Without
checks they add up to the word zero, and the third poll ends the run. -/
theorem over_on_quarters :
    quarters ≠ .zero ∧ quarters.sum = UInt64.size ∧ quarters.total? = none ∧
      quarters.isIdle? = none ∧ (after 3 (held quarters 2)).tally = quarters ∧
      ((after 3 (held quarters 0)).poll 3).1 = .panicked ∧
      ((after 3 (held quarters 2)).poll 3).1 = .panicked ∧
      quarters.subtotal 4 = 0 ∧ quarters.wrapped = 0 ∧
      ((after 3 (held quarters 2)).pollUnchecked 3).1 = .ended := by
  decide

end Watched
end ScriptHost.Quiescence
