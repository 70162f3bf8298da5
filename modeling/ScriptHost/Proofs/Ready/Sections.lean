import ScriptHost.Proofs.Ready.Index

/-!
# Critical sections of the queue

Any number of threads work on one queue.  What a thread does under the lock of the queue is one
`Section`; the wake-up token has no lock, so an `enqueue` that was accepted leaves it in a section of
its own, and other threads may come in between (`enqueue_eq`).  However the calls of all threads
interleave, what happens to the queue is a list of sections.

The entries and the index are two things to keep, and every section has its own way of changing both.
Between sections the index is exact: it lists the timers that have an entry, each of them once, and no
timer has two entries.  That is why the queue may decide by its index alone what to coalesce and what
to discard.
-/

namespace ScriptHost.Ready

/-! ## One entry for a target -/

/-- The one callback for a target can be cut out of a batch. -/
theorem exists_cut_of_occurrences_eq_one {cs : List Callback} {t : Target}
    (hone : occurrences cs t = 1) :
    ∃ before c after, c.target = t ∧ cs = before ++ c :: after ∧
      cs.filter (·.target ≠ t) = before ++ after := by
  obtain ⟨c, hmem, htarget⟩ := (occurrences_pos_iff cs t).1 (by omega)
  obtain ⟨before, after, rfl⟩ := List.append_of_mem hmem
  rw [occurrences_append, occurrences_cons, if_pos htarget] at hone
  have hbefore : occurrences before t = 0 := by omega
  have hafter : occurrences after t = 0 := by omega
  refine ⟨before, c, after, htarget, rfl, ?_⟩
  rw [List.filter_append, List.filter_cons_of_neg (by simp [htarget]),
    filter_ne_of_occurrences_eq_zero hbefore, filter_ne_of_occurrences_eq_zero hafter]

namespace Queue

/-! ## What the index tells -/

namespace Indexed

variable {q : Queue} (h : q.Indexed)
include h

theorem mem_waiting_iff (id : Nat) : id ∈ q.waiting ↔ ∃ c ∈ q.entries, c.target = .timer id := by
  rw [← count_pos_iff, h id]
  split <;> simp_all

/-- A callback is refused exactly if it is for a timer that has an entry. -/
theorem admits_eq_false_iff (t : Target) :
    q.admits t = false ↔ ∃ id, t = .timer id ∧ ∃ c ∈ q.entries, c.target = .timer id := by
  cases t with
  | timer id => simp [admits, h.mem_waiting_iff]
  | completion id => simp [admits]

/-- A discard finds a timer if it has an entry. -/
theorem discard_finds_iff (id : Nat) :
    (q.discard id).1 = true ↔ ∃ c ∈ q.entries, c.target = .timer id := by
  rw [← h.mem_waiting_iff id]
  by_cases hin : id ∈ q.waiting <;> simp [Queue.discard, hin]

/-- A timer is discarded by cutting its one entry out. -/
theorem discard_eq_true_iff (id : Nat) :
    (q.discard id).1 = true ↔
      ∃ before c after, c.target = .timer id ∧ q.entries = before ++ c :: after ∧
        (q.discard id).2.entries = before ++ after := by
  by_cases hin : id ∈ q.waiting
  · have hone : occurrences q.entries (.timer id) = 1 := by
      have hcount := h id
      rwa [if_pos hin] at hcount
    rw [discard_of_mem hin]
    exact iff_of_true (by simp [Queue.discard, hin]) (exists_cut_of_occurrences_eq_one hone)
  · rw [discard_of_not_mem hin]
    refine iff_of_false (by simp [Queue.discard, hin]) ?_
    rintro ⟨before, c, after, htarget, hentries, -⟩
    exact hin ((h.mem_waiting_iff id).2 ⟨c, by simp [hentries], htarget⟩)

end Indexed

theorem discard_of_eq_false {q : Queue} {id : Nat} (hnone : (q.discard id).1 = false) :
    (q.discard id).2 = q := by
  refine discard_of_not_mem fun hin => ?_
  simp [discard, hin] at hnone

theorem enqueue_of_admits {q : Queue} {c : Callback} (h : q.admits c.target = true) :
    q.enqueue c = (true, (q.push c).signal) := by
  simp [enqueue, offer, h]

theorem enqueue_of_not_admits {q : Queue} {c : Callback} (h : q.admits c.target = false) :
    q.enqueue c = (false, q.coalesce) := by
  simp [enqueue, offer, h]

theorem fst_enqueue (q : Queue) (c : Callback) : (q.enqueue c).1 = q.admits c.target := by
  cases h : q.admits c.target with
  | true => rw [enqueue_of_admits h]
  | false => rw [enqueue_of_not_admits h]

theorem entries_after_enqueue (q : Queue) (c : Callback) :
    (q.enqueue c).2.entries = if (q.enqueue c).1 then q.entries ++ [c] else q.entries := by
  cases h : q.admits c.target with
  | true =>
      rw [enqueue_of_admits h]
      rfl
  | false =>
      rw [enqueue_of_not_admits h]
      rfl

/-! ## Sections -/

/-- What one thread does to the queue while no other one can see it. -/
inductive Section where
  | offer (c : Callback)
  | signal
  | takeToken
  | drain
  | discard (id : Nat)
  | clear

/-- The queue after a section. -/
def exec (q : Queue) : Section → Queue
  | .offer c => (q.offer c).2
  | .signal => q.signal
  | .takeToken => q.takeToken.2
  | .drain => q.drain.2
  | .discard id => (q.discard id).2
  | .clear => q.clear.2

/-- The queue after all sections of all threads, in their order. -/
def after (sections : List Section) : Queue := sections.foldl exec empty

/-- The sections of a call that enqueues. -/
def sectionsOf (q : Queue) (c : Callback) : List Section :=
  .offer c :: if q.admits c.target then [.signal] else []

/-- A call that enqueues with nothing in between its sections. -/
theorem enqueue_eq (q : Queue) (c : Callback) :
    (q.enqueue c).2 = (q.sectionsOf c).foldl exec q := by
  cases h : q.admits c.target with
  | true =>
      rw [enqueue_of_admits h]
      simp [sectionsOf, exec, offer, h]
  | false =>
      rw [enqueue_of_not_admits h]
      simp [sectionsOf, exec, offer, h]

/-- The index lists the timers that have an entry, each of them once, and none has two. -/
structure Exact (q : Queue) : Prop where
  indexed : q.Indexed
  nodup : q.waiting.Nodup

theorem exact_empty : empty.Exact := ⟨indexed_empty, List.nodup_nil⟩

theorem nodup_waiting_offer {q : Queue} (h : q.waiting.Nodup) (c : Callback) :
    (q.offer c).2.waiting.Nodup := by
  rw [offer]
  split
  · rename_i hadmits
    obtain ⟨target, outcome⟩ := c
    cases target with
    | completion id => exact h
    | timer id =>
        have hout : id ∉ q.waiting := by simpa [admits] using hadmits
        exact List.nodup_cons.2 ⟨hout, h⟩
  · exact h

theorem Exact.exec {q : Queue} (h : q.Exact) (s : Section) : (q.exec s).Exact := by
  cases s with
  | offer c => exact ⟨h.indexed.offer c, nodup_waiting_offer h.nodup c⟩
  | signal | takeToken => exact ⟨h.indexed.congr rfl rfl, h.nodup⟩
  | drain => exact ⟨indexed_drain q, List.nodup_nil⟩
  | clear => exact ⟨indexed_clear q, List.nodup_nil⟩
  | discard id =>
      refine ⟨h.indexed.discard id, ?_⟩
      by_cases hin : id ∈ q.waiting
      · show (q.discard id).2.waiting.Nodup
        rw [discard_of_mem hin]
        exact h.nodup.filter _
      · show (q.discard id).2.waiting.Nodup
        rw [discard_of_not_mem hin]
        exact h.nodup

theorem exact_after (sections : List Section) : (after sections).Exact := by
  suffices hkeep : ∀ (sections : List Section) (q : Queue), q.Exact →
      (sections.foldl Queue.exec q).Exact from hkeep sections empty exact_empty
  intro sections
  induction sections with
  | nil => exact fun _ h => h
  | cons s sections ih => exact fun q h => ih (q.exec s) (h.exec s)

/-- **The index is exact after every section.**  Whatever threads do to a new queue, in whatever order
their critical sections come: the index lists a timer if and only if an entry is for it, it lists no
timer twice, and no timer has two entries.

Hence a call that enqueues is refused exactly if its callback is for a timer that has an entry, and puts
its callback at the end otherwise.  A discard answers `true` exactly if the timer has an entry, and
exactly if it takes one entry out, which is the timer's, and leaves the others in their order; if it
answers `false`, nothing changes. -/
theorem index_exact_between_sections (sections : List Section) :
    let q := after sections
    (∀ id, id ∈ q.waiting ↔ ∃ c ∈ q.entries, c.target = .timer id) ∧
    q.waiting.Nodup ∧
    (∀ id, q.count (.timer id) ≤ 1) ∧
    (∀ c, ((q.enqueue c).1 = false ↔
        ∃ id, c.target = .timer id ∧ ∃ d ∈ q.entries, d.target = .timer id) ∧
      (q.enqueue c).2.entries = if (q.enqueue c).1 then q.entries ++ [c] else q.entries) ∧
    (∀ id, ((q.discard id).1 = true ↔ ∃ c ∈ q.entries, c.target = .timer id) ∧
      ((q.discard id).1 = true ↔
        ∃ before c after, c.target = .timer id ∧ q.entries = before ++ c :: after ∧
          (q.discard id).2.entries = before ++ after) ∧
      ((q.discard id).1 = false → (q.discard id).2 = q)) := by
  intro q
  have h : q.Exact := exact_after sections
  refine ⟨h.indexed.mem_waiting_iff, h.nodup, h.indexed.count_timer_le,
    fun c => ⟨?_, entries_after_enqueue q c⟩,
    fun id => ⟨h.indexed.discard_finds_iff id, h.indexed.discard_eq_true_iff id,
      discard_of_eq_false⟩⟩
  rw [fst_enqueue]
  exact h.indexed.admits_eq_false_iff c.target

/-- A firing is offered again before the call that has put the first one in has signalled; then the
timer is discarded, and may wait again. -/
example : (after [.offer (.firing 1), .offer (.firing 1), .signal, .discard 1, .offer (.firing 2),
    .offer (.firing 1)]).waiting = [1, 2] := rfl

end Queue
end ScriptHost.Ready
