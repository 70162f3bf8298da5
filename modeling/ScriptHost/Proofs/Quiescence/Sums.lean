import ScriptHost.Quiescence.Tally

/-!
# Adding up a tally

Six checked additions have a result exactly if the sum of the counts is a word (`total?_eq`): sums only
grow, so no addition on the way panics unless the last one would.  Whatever is read off the result is
read off the sum, therefore: a tally is idle exactly if it is all zero, and nothing can be said of it
exactly if its counts do not fit into a word.
-/

namespace ScriptHost.Quiescence

theorem word?_of_lt {n : Nat} (hlt : n < UInt64.size) : word? n = some (UInt64.ofNat n) := if_pos hlt

theorem word?_eq_none_iff {n : Nat} : word? n = none ↔ ¬n < UInt64.size := by
  rw [word?, ite_eq_right_iff]
  simp only [reduceCtorEq, imp_false]

theorem word?_eq_some_iff {n : Nat} {w : UInt64} : word? n = some w ↔ w.toNat = n := by
  by_cases hlt : n < UInt64.size
  · rw [word?_of_lt hlt, Option.some.injEq, ← UInt64.toNat_inj, UInt64.toNat_ofNat_of_lt' hlt]
    exact eq_comm
  · rw [word?_eq_none_iff.2 hlt]
    refine ⟨nofun, ?_⟩
    rintro rfl
    exact absurd w.toNat_lt_size hlt

/-- To add a word to what may be one is to add it to the number. -/
theorem bind_add? (n : Nat) (w : UInt64) :
    ((word? n).bind fun sum => add? sum w) = word? (n + w.toNat) := by
  by_cases hlt : n < UInt64.size
  · rw [word?_of_lt hlt, Option.bind_some, add?, UInt64.toNat_ofNat_of_lt' hlt]
  · have hgreater : ¬n + w.toNat < UInt64.size := by omega
    rw [word?_eq_none_iff.2 hlt, word?_eq_none_iff.2 hgreater, Option.bind_none]

namespace Tally

/-- The six counts together, beyond the size of a word. -/
def sum (t : Tally) : Nat :=
  t.backgroundTasks.toNat + t.activeTimers.toNat + t.networkOperations.toNat +
    t.openConnections.toNat + t.openListeners.toNat + t.queuedCallbacks.toNat

/-- The sum of the counts is a word. -/
def Fits (t : Tally) : Prop := t.sum < UInt64.size

instance (t : Tally) : Decidable t.Fits := inferInstanceAs (Decidable (_ < _))

theorem total?_eq (t : Tally) : t.total? = word? t.sum := by
  simp only [total?, Option.bind_eq_bind]
  rw [add?, ← Option.bind_assoc, bind_add?, ← Option.bind_assoc, bind_add?, ← Option.bind_assoc,
    bind_add?, bind_add?, sum]

theorem total?_eq_some_iff {t : Tally} {w : UInt64} : t.total? = some w ↔ w.toNat = t.sum := by
  rw [total?_eq, word?_eq_some_iff]

theorem total?_eq_none_iff {t : Tally} : t.total? = none ↔ ¬t.Fits := by
  rw [total?_eq, word?_eq_none_iff, Fits]

theorem sum_eq_zero_iff (t : Tally) : t.sum = 0 ↔ t = zero := by
  constructor
  · intro hzero
    simp only [sum, Nat.add_eq_zero_iff] at hzero
    obtain ⟨⟨⟨⟨⟨hb, ht⟩, hn⟩, hc⟩, hl⟩, hq⟩ := hzero
    obtain ⟨b, ti, n, c, l, q⟩ := t
    simp only [zero, mk.injEq, ← UInt64.toNat_inj]
    exact ⟨hb, ht, hn, hc, hl, hq⟩
  · rintro rfl
    rfl

theorem isIdle?_eq_none_iff {t : Tally} : t.isIdle? = none ↔ ¬t.Fits := by
  rw [isIdle?, Option.map_eq_none_iff, total?_eq_none_iff]

/-- A tally is idle if nothing is outstanding. -/
theorem isIdle?_iff {t : Tally} : t.isIdle? = some true ↔ t = zero := by
  rw [isIdle?, Option.map_eq_some_iff]
  constructor
  · rintro ⟨total, htotal, hzero⟩
    rw [decide_eq_true_eq] at hzero
    rw [← sum_eq_zero_iff, ← total?_eq_some_iff.1 htotal, hzero, UInt64.toNat_zero]
  · rintro rfl
    exact ⟨0, rfl, rfl⟩

theorem isIdle?_of_fits {t : Tally} (hfits : t.Fits) : t.isIdle? = some (decide (t = zero)) := by
  cases hidle : t.isIdle? with
  | none => exact absurd hfits (isIdle?_eq_none_iff.1 hidle)
  | some idle =>
      rw [Option.some.injEq, Bool.eq_iff_iff, decide_eq_true_eq, ← isIdle?_iff, hidle,
        Option.some.injEq]

end Tally
end ScriptHost.Quiescence
