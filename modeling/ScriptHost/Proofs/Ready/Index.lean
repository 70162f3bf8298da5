import ScriptHost.Ready.Queue

/-!
# The index of the queue

The queue decides by its index whether a firing is coalesced and whether there is an entry to
discard.  Both decisions are right only as long as the index agrees with the entries: a timer is in
the index exactly if it has an entry, and it never has two.  `Queue.Indexed` says so with one
equation for each timer, and every operation of the queue keeps it.

Entries are counted by target (`occurrences`).  With the index in order, each operation has one
equation for the count of each target, and later proofs need nothing else about the queue.
-/

namespace ScriptHost.Ready

@[simp] theorem Callback.target_firing (id : Nat) : (firing id).target = .timer id := rfl

/-- How many callbacks of a batch are for a target. -/
def occurrences (cs : List Callback) (t : Target) : Nat := cs.countP (·.target = t)

@[simp] theorem occurrences_nil (t : Target) : occurrences [] t = 0 := rfl

theorem occurrences_cons (c : Callback) (cs : List Callback) (t : Target) :
    occurrences (c :: cs) t = occurrences cs t + if c.target = t then 1 else 0 := by
  simp only [occurrences, List.countP_cons, decide_eq_true_eq]

theorem occurrences_append (cs ds : List Callback) (t : Target) :
    occurrences (cs ++ ds) t = occurrences cs t + occurrences ds t := by
  simp only [occurrences, List.countP_append]

theorem occurrences_pos_iff (cs : List Callback) (t : Target) :
    0 < occurrences cs t ↔ ∃ c ∈ cs, c.target = t := by
  simp only [occurrences, List.countP_pos_iff, decide_eq_true_eq]

/-- Dropping the callbacks for one target leaves the counts of all others. -/
theorem occurrences_filter_ne (cs : List Callback) (dropped t : Target) :
    occurrences (cs.filter (·.target ≠ dropped)) t =
      if t = dropped then 0 else occurrences cs t := by
  induction cs with
  | nil => simp
  | cons c cs ih =>
      by_cases hc : c.target = dropped
      · rw [List.filter_cons_of_neg (by simp [hc]), ih, occurrences_cons]
        by_cases ht : t = dropped
        · rw [if_pos ht, if_pos ht]
        · rw [if_neg ht, if_neg ht, if_neg (by rw [hc]; exact Ne.symm ht)]
          omega
      · rw [List.filter_cons_of_pos (by simp [hc]), occurrences_cons, occurrences_cons, ih]
        by_cases ht : t = dropped
        · rw [if_pos ht, if_pos ht, if_neg (by rw [ht]; exact hc)]
        · rw [if_neg ht, if_neg ht]

theorem filter_ne_of_occurrences_eq_zero {cs : List Callback} {t : Target}
    (hnone : occurrences cs t = 0) : cs.filter (·.target ≠ t) = cs := by
  refine List.filter_eq_self.2 fun c hmem => decide_eq_true fun htarget => ?_
  have hpos := (occurrences_pos_iff cs t).2 ⟨c, hmem, htarget⟩
  omega

namespace Queue

/-- The number of entries for a target. -/
def count (q : Queue) (t : Target) : Nat := occurrences q.entries t

theorem count_pos_iff (q : Queue) (t : Target) : 0 < q.count t ↔ ∃ c ∈ q.entries, c.target = t :=
  occurrences_pos_iff q.entries t

/-- The index is exact: a timer in it has one entry, and any other timer has none. -/
def Indexed (q : Queue) : Prop :=
  ∀ id, q.count (.timer id) = if id ∈ q.waiting then 1 else 0

theorem indexed_empty : empty.Indexed := fun _ => rfl

/-- Only the entries and the index matter. -/
theorem Indexed.congr {q r : Queue} (h : q.Indexed) (hentries : r.entries = q.entries)
    (hwaiting : r.waiting = q.waiting) : r.Indexed := by
  intro id
  rw [count, hentries, hwaiting]
  exact h id

theorem Indexed.count_timer_le {q : Queue} (h : q.Indexed) (id : Nat) :
    q.count (.timer id) ≤ 1 := by
  rw [h id]
  split <;> omega

theorem count_push (q : Queue) (c : Callback) (t : Target) :
    (q.push c).count t = q.count t + if c.target = t then 1 else 0 := by
  rw [count, push, occurrences_append, occurrences_cons, occurrences_nil, Nat.zero_add, count]

/-! ## Enqueueing -/

@[simp] theorem waiting_signal (q : Queue) : q.signal.waiting = q.waiting := rfl

@[simp] theorem count_signal (q : Queue) (t : Target) : q.signal.count t = q.count t := rfl

theorem count_enqueue_completion (q : Queue) (id : Nat) (outcome : Outcome) (t : Target) :
    (q.enqueue (.completion id outcome)).2.count t =
      q.count t + if Target.completion id = t then 1 else 0 := by
  simp only [enqueue, offer, admits, Callback.completion, if_true, count_signal]
  exact count_push q _ t

theorem enqueue_firing_of_mem {q : Queue} {id : Nat} (hin : id ∈ q.waiting) :
    (q.enqueue (.firing id)).2 = q.coalesce := by
  simp [enqueue, offer, admits, Callback.firing, hin]

theorem enqueue_firing_of_not_mem {q : Queue} {id : Nat} (hout : id ∉ q.waiting) :
    (q.enqueue (.firing id)).2 = (q.push (.firing id)).signal := by
  simp [enqueue, offer, admits, Callback.firing, hout]

/-- A firing is accepted exactly if the timer has no entry, so that it has one afterwards. -/
theorem Indexed.count_enqueue_firing {q : Queue} (h : q.Indexed) (id : Nat) (t : Target) :
    (q.enqueue (.firing id)).2.count t = if t = .timer id then 1 else q.count t := by
  by_cases hin : id ∈ q.waiting
  · rw [enqueue_firing_of_mem hin]
    by_cases ht : t = .timer id
    · rw [if_pos ht, ht]
      show q.count (.timer id) = 1
      rw [h id, if_pos hin]
    · rw [if_neg ht]
      rfl
  · rw [enqueue_firing_of_not_mem hin, count_signal, count_push]
    by_cases ht : t = .timer id
    · rw [if_pos ht, ht, h id, if_neg hin, if_pos (Callback.target_firing id)]
    · rw [if_neg ht, if_neg (fun hid => ht hid.symm), Nat.add_zero]

theorem Indexed.enqueue_completion {q : Queue} (h : q.Indexed) (id : Nat) (outcome : Outcome) :
    (q.enqueue (.completion id outcome)).2.Indexed := by
  intro other
  rw [count_enqueue_completion, if_neg (by simp), Nat.add_zero, h other]
  rfl

theorem Indexed.enqueue_firing {q : Queue} (h : q.Indexed) (id : Nat) :
    (q.enqueue (.firing id)).2.Indexed := by
  by_cases hin : id ∈ q.waiting
  · rw [enqueue_firing_of_mem hin]
    exact h
  · intro other
    rw [h.count_enqueue_firing, enqueue_firing_of_not_mem hin, waiting_signal]
    show _ = if other ∈ id :: q.waiting then 1 else 0
    by_cases hother : other = id
    · rw [hother, if_pos rfl, if_pos List.mem_cons_self]
    · rw [if_neg (by simp [hother]), h other]
      simp [hother]

/-- Anything may be offered: a firing is put in only if its timer has no entry. -/
theorem Indexed.offer {q : Queue} (h : q.Indexed) (c : Callback) : (q.offer c).2.Indexed := by
  rw [Queue.offer]
  split
  · rename_i hadmits
    obtain ⟨target, outcome⟩ := c
    intro id
    rw [count_push, h id]
    cases target with
    | completion other =>
        have hne : Target.completion other ≠ .timer id := nofun
        rw [if_neg hne, Nat.add_zero]
        rfl
    | timer other =>
        have hout : other ∉ q.waiting := by simpa [admits] using hadmits
        by_cases hid : id = other
        · simp [push, hid, hout]
        · have hne : Target.timer other ≠ .timer id := fun heq => hid (by cases heq; rfl)
          simp [push, hid, hne]
  · exact h

/-! ## Taking entries out -/

theorem discard_of_mem {q : Queue} {id : Nat} (hin : id ∈ q.waiting) :
    (q.discard id).2 =
      { q with
        entries := q.entries.filter (·.target ≠ .timer id)
        waiting := q.waiting.filter (· ≠ id) } := by
  simp [discard, hin]

theorem discard_of_not_mem {q : Queue} {id : Nat} (hout : id ∉ q.waiting) :
    (q.discard id).2 = q := by
  simp [discard, hout]

/-- Discarding a timer drops the entries for it, of which there may be none. -/
theorem Indexed.entries_discard {q : Queue} (h : q.Indexed) (id : Nat) :
    (q.discard id).2.entries = q.entries.filter (·.target ≠ .timer id) := by
  by_cases hin : id ∈ q.waiting
  · rw [discard_of_mem hin]
  · have hnone := h id
    rw [if_neg hin] at hnone
    rw [discard_of_not_mem hin, filter_ne_of_occurrences_eq_zero hnone]

theorem Indexed.count_discard {q : Queue} (h : q.Indexed) (id : Nat) (t : Target) :
    (q.discard id).2.count t = if t = .timer id then 0 else q.count t := by
  by_cases hin : id ∈ q.waiting
  · rw [discard_of_mem hin, count, occurrences_filter_ne, count]
  · rw [discard_of_not_mem hin]
    by_cases ht : t = .timer id
    · rw [if_pos ht, ht, h id, if_neg hin]
    · rw [if_neg ht]

theorem Indexed.discard {q : Queue} (h : q.Indexed) (id : Nat) : (q.discard id).2.Indexed := by
  by_cases hin : id ∈ q.waiting
  · intro other
    rw [h.count_discard, discard_of_mem hin]
    show _ = if other ∈ q.waiting.filter (· ≠ id) then 1 else 0
    by_cases hother : other = id
    · rw [hother, if_pos rfl, if_neg (by simp)]
    · rw [if_neg (by simp [hother]), h other]
      simp [hother]
  · rw [discard_of_not_mem hin]
    exact h

theorem indexed_drain (q : Queue) : q.drain.2.Indexed := fun _ => rfl

theorem indexed_clear (q : Queue) : q.clear.2.Indexed := fun _ => rfl

/-! ## What has been offered -/

/-- How many callbacks have been offered: each of them was accepted or coalesced. -/
def offered (q : Queue) : Nat := q.accepted + q.coalesced

theorem offered_offer (q : Queue) (c : Callback) : (q.offer c).2.offered = q.offered + 1 := by
  rw [offer]
  split
  · show q.accepted + 1 + q.coalesced = q.accepted + q.coalesced + 1
    omega
  · rfl

@[simp] theorem offered_discard (q : Queue) (id : Nat) : (q.discard id).2.offered = q.offered := by
  rw [discard]
  split <;> rfl

end Queue
end ScriptHost.Ready
