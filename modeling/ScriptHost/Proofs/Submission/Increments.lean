import Mathlib.Data.List.Induction
import Mathlib.Data.List.Nodup
import Mathlib.Data.List.Perm.Basic
import ScriptHost.Submission.Stats

/-!
# Reading counters one after the other

The counters are increased for one call at a time: for its submission first, then for its completion
and its timeout in either order, and for its failure after its completion.  `Lawful` lists are the
orders in which this can happen.  At every moment the counters are then in order: no more calls have
failed than have been completed, and no more have been completed, or have timed out, than have been
submitted.

A reader loads one counter after the other, and so finds each at a moment of its own.  What it loads
later may have run ahead of what it has loaded before, and `Stats.read_snapshot_le_iff` says when this
shows.
-/

namespace ScriptHost.Submission

/-- What has been counted for a call before a counter is increased for it. -/
def Counter.cause? : Counter → Option Counter
  | submitted => none
  | completed | timedOut => some submitted
  | failed => some completed

/-- A counter is increased for a call. -/
structure Increment where
  counter : Counter
  call : Nat
  deriving DecidableEq

namespace Increment

/-- Whether an increment can come next: it has not been made yet, and its cause has. -/
def Due (made : List Increment) (i : Increment) : Prop :=
  i ∉ made ∧ ∀ c ∈ i.counter.cause?, ⟨c, i.call⟩ ∈ made

instance (made : List Increment) (i : Increment) : Decidable (Due made i) := by
  unfold Due
  exact inferInstance

/-- Whether increments can come in this order after those that have been made. -/
def Lawful (made : List Increment) : List Increment → Prop
  | [] => True
  | i :: log => Due made i ∧ Lawful (made ++ [i]) log

instance decidableLawful : (made log : List Increment) → Decidable (Lawful made log)
  | _, [] => .isTrue trivial
  | made, i :: log =>
      have := decidableLawful (made ++ [i]) log
      inferInstanceAs (Decidable (_ ∧ _))

theorem lawful_append {log later : List Increment} :
    ∀ {made : List Increment}, Lawful made (log ++ later) ↔
      Lawful made log ∧ Lawful (made ++ log) later := by
  induction log with
  | nil => simp [Lawful]
  | cons i log ih =>
      intro made
      rw [List.cons_append, Lawful, Lawful, ih, and_assoc, List.append_assoc, List.singleton_append]

theorem lawful_singleton {made : List Increment} {i : Increment} : Lawful made [i] ↔ Due made i :=
  and_iff_left trivial

/-- Nothing has been counted twice, and nothing without its cause. -/
structure Caused (made : List Increment) : Prop where
  nodup : made.Nodup
  cause : ∀ i ∈ made, ∀ c ∈ i.counter.cause?, ⟨c, i.call⟩ ∈ made

theorem Caused.next {made : List Increment} {i : Increment} (h : Caused made) (hdue : Due made i) :
    Caused (made ++ [i]) where
  nodup := by
    rw [List.nodup_append]
    refine ⟨h.nodup, List.nodup_singleton i, fun j hj k hk => ?_⟩
    rw [List.mem_singleton] at hk
    rintro rfl
    exact hdue.1 (hk ▸ hj)
  cause j hj c hc := by
    refine List.mem_append_left _ ?_
    rcases List.mem_append.1 hj with hj | hj
    · exact h.cause j hj c hc
    · rw [List.mem_singleton] at hj
      subst hj
      exact hdue.2 c hc

theorem Caused.run {log : List Increment} :
    ∀ {made : List Increment}, Caused made → Lawful made log → Caused (made ++ log) := by
  induction log with
  | nil =>
      intro made h _
      rwa [List.append_nil]
  | cons i log ih =>
      intro made h hlawful
      have hrest := ih (h.next hlawful.1) hlawful.2
      rwa [List.append_assoc] at hrest

theorem Lawful.caused {log : List Increment} (h : Lawful [] log) : Caused log :=
  Caused.run ⟨List.nodup_nil, fun _ hi => by cases hi⟩ h

/-! ## How often a counter has been increased -/

/-- The calls that a counter has been increased for. -/
def counted (log : List Increment) (c : Counter) : List Nat :=
  (log.filter (·.counter = c)).map (·.call)

theorem mem_counted {log : List Increment} {c : Counter} {call : Nat} :
    call ∈ counted log c ↔ ⟨c, call⟩ ∈ log := by
  simp only [counted, List.mem_map, List.mem_filter, decide_eq_true_eq]
  constructor
  · rintro ⟨⟨_, _⟩, ⟨hin, rfl⟩, rfl⟩
    exact hin
  · exact fun hin => ⟨_, ⟨hin, rfl⟩, rfl⟩

theorem counted_append (log later : List Increment) (c : Counter) :
    counted (log ++ later) c = counted log c ++ counted later c := by
  rw [counted, List.filter_append, List.map_append]
  rfl

@[simp] theorem counted_singleton (c d : Counter) (call : Nat) :
    counted [⟨d, call⟩] c = if d = c then [call] else [] := by
  by_cases h : d = c <;> simp [counted, h]

theorem Caused.nodup_counted {log : List Increment} (h : Caused log) (c : Counter) :
    (counted log c).Nodup := by
  refine List.Nodup.map_on ?_ (h.nodup.filter _)
  rintro ⟨_, _⟩ hi ⟨_, _⟩ hj rfl
  simp only [List.mem_filter, decide_eq_true_eq] at hi hj
  rw [hi.2, hj.2]

/-- No counter has been increased more often than that of its cause. -/
theorem Lawful.length_counted_le {log : List Increment} (h : Lawful [] log) {c d : Counter}
    (hcause : d ∈ c.cause?) : (counted log c).length ≤ (counted log d).length := by
  refine (List.subperm_of_subset (h.caused.nodup_counted c) fun call hcall => ?_).length_le
  rw [mem_counted] at hcall ⊢
  exact h.caused.cause _ hcall d hcause

theorem Lawful.length_counted_le_submitted {log : List Increment} (h : Lawful [] log)
    (c : Counter) : (counted log c).length ≤ (counted log .submitted).length := by
  cases c with
  | submitted => exact Nat.le_refl _
  | completed | timedOut => exact h.length_counted_le rfl
  | failed =>
      calc (counted log .failed).length
        _ ≤ (counted log .completed).length := h.length_counted_le rfl
        _ ≤ (counted log .submitted).length := h.length_counted_le rfl

end Increment

/-! ## The counters -/

open Increment

namespace Stats

/-- The counters after some increments. -/
def ofLog (log : List Increment) : Stats := log.foldl (fun s i => s.count i.counter) zero

theorem ofLog_append (log later : List Increment) :
    ofLog (log ++ later) = later.foldl (fun s i => s.count i.counter) (ofLog log) :=
  List.foldl_append

theorem read_count (s : Stats) (c d : Counter) :
    (s.count d).read c = s.read c + if d = c then 1 else 0 := by
  cases c <;> cases d <;> first | rfl | exact (UInt64.add_zero _).symm

theorem read_ofLog (log : List Increment) (c : Counter) :
    (ofLog log).read c = UInt64.ofNat (counted log c).length := by
  induction log using List.reverseRecOn with
  | nil => cases c <;> rfl
  | append_singleton log i ih =>
      rw [ofLog_append, List.foldl_cons, List.foldl_nil, read_count, ih, counted_append,
        List.length_append, UInt64.ofNat_add, counted_singleton]
      split <;> rfl

theorem read_snapshot (at_ : Counter → Stats) (c : Counter) :
    (snapshot at_).read c = (at_ c).read c := by
  cases c <;> rfl

/-- No more has been counted of anything than of its cause. -/
def InOrder (s : Stats) : Prop :=
  s.failed ≤ s.completed ∧ s.completed ≤ s.submitted ∧ s.timedOut ≤ s.submitted

instance (s : Stats) : Decidable s.InOrder := inferInstanceAs (Decidable (_ ∧ _ ∧ _))

end Stats

/-! ## A reader -/

section Reader

variable {α : Type} (gaps : Counter → List α)

/-- What has happened when a reader comes to a counter, if `gaps` is what happens before each of its
loads since the one before. -/
def before (c : Counter) : List α := (Counter.order.takeWhile (· ≠ c)).flatMap gaps

/-- What has happened when a reader loads a counter. -/
def seen (c : Counter) : List α := before gaps c ++ gaps c

theorem seen_completed : seen gaps .completed = seen gaps .submitted ++ gaps .completed := by
  simp [seen, before, Counter.order]

theorem seen_failed : seen gaps .failed = seen gaps .completed ++ gaps .failed := by
  simp [seen, before, Counter.order]

theorem seen_timedOut :
    seen gaps .timedOut =
      seen gaps .submitted ++ (gaps .completed ++ gaps .failed ++ gaps .timedOut) := by
  simp [seen, before, Counter.order]

theorem seen_prefix (c : Counter) : seen gaps c <+: seen gaps .timedOut := by
  cases c <;> simp [seen, before, Counter.order]

end Reader

/-- A counter that is loaded after that of its cause is found ahead of it exactly if it has been
increased more often in between than there were causes without their effect at the first load. -/
theorem Stats.read_snapshot_le_iff {gaps : Counter → List Increment} {c d : Counter}
    (hcause : d ∈ c.cause?) {later : List Increment} (hlater : seen gaps c = seen gaps d ++ later)
    (hlawful : Lawful [] (seen gaps .timedOut))
    (hfits : (counted (seen gaps .timedOut) .submitted).length < UInt64.size) :
    (snapshot fun c => ofLog (seen gaps c)).read c ≤ (snapshot fun c => ofLog (seen gaps c)).read d ↔
      (counted later c).length ≤
        (counted (seen gaps d) d).length - (counted (seen gaps d) c).length := by
  -- No counter overflows as long as that of submissions does not.
  have hword : ∀ c, (counted (seen gaps c) c).length < UInt64.size := by
    intro c
    obtain ⟨rest, hrest⟩ := seen_prefix gaps c
    have hle := hlawful.length_counted_le_submitted c
    rw [← hrest] at hle hfits
    rw [counted_append, List.length_append] at hle
    omega
  have hfirst : (counted (seen gaps d) c).length ≤ (counted (seen gaps d) d).length := by
    obtain ⟨rest, hrest⟩ := seen_prefix gaps d
    exact (lawful_append.1 (hrest ▸ hlawful)).1.length_counted_le hcause
  rw [read_snapshot, read_snapshot, read_ofLog, read_ofLog, UInt64.le_iff_toNat_le,
    UInt64.toNat_ofNat_of_lt' (hword c), UInt64.toNat_ofNat_of_lt' (hword d), hlater,
    counted_append, List.length_append]
  omega

end ScriptHost.Submission
