import ScriptHost.Proofs.Desk.Requests
import ScriptHost.Proofs.Ready.Index
import ScriptHost.Proofs.Ready.Registered
import ScriptHost.Proofs.Timer.Liveness

/-!
# Timers and their closures when a host ends things by itself

Guest code creates a timer together with its closure and clears both together.  A host ends timers
without asking the guest, and a guest drops all its closures without asking the timers.  The first
leaves closures without a timer, which do no harm.  The second leaves timers without a closure: those
that are live at that moment, the orphans.

`Covers` says what holds in between, for each timer by itself (`Covered`): a live timer without a
closure is an orphan, and a timer with a closure is none.  The rest of it is there to be kept: a
closure that is used once has at most one use left, so that its timer is not live any more when the
firing is looked up; and the closure of an interval does not belong to a timer that fires once.
-/

namespace ScriptHost.Desk

open Ready (Callback Closures Queue Target occurrences)

variable {F : Type}

/-- The firings of a timer that wait in the queue, or have been drained and not looked up. -/
def firings (s : Services) (batch : List Callback) (id : Nat) : Nat :=
  s.queue.count (.timer id) + occurrences batch (.timer id)

/-- What holds of a timer: whether its number has been given out, whether it is an orphan, whether its
closure is used again and again, whether it repeats, and how many firings of it wait. -/
structure Covered (issued orphan : Prop) (closure kind : Option Bool) (firings : Nat) : Prop where
  unissued : ¬issued → closure = none ∧ kind = none ∧ firings = 0 ∧ ¬orphan
  uncovered : closure = none → kind.isSome = true → orphan
  once : closure = some false →
    ¬orphan ∧ kind ≠ some true ∧ (kind.isSome = true → firings = 0) ∧ firings ≤ 1
  again : closure = some true → ¬orphan ∧ kind ≠ some false

namespace Covered

variable {issued orphan : Prop} {closure kind : Option Bool} {n : Nat}

/-- A timer may end, and firings of it may be dropped. -/
theorem mono (h : Covered issued orphan closure kind n) {issued' : Prop} {kind' : Option Bool} {n' : Nat}
    (hissued : issued → issued') (hkind : kind' = kind ∨ kind' = none) (hfirings : n' ≤ n) :
    Covered issued' orphan closure kind' n' where
  unissued hnot := by
    obtain ⟨hclosure, hnone, hzero, horphan⟩ := h.unissued fun hissue => hnot (hissued hissue)
    refine ⟨hclosure, ?_, by omega, horphan⟩
    rcases hkind with rfl | rfl
    · exact hnone
    · rfl
  uncovered hclosure hlive := by
    rcases hkind with rfl | rfl
    · exact h.uncovered hclosure hlive
    · cases hlive
  once hclosure := by
    obtain ⟨horphan, hsort, hlive, hone⟩ := h.once hclosure
    refine ⟨horphan, ?_, ?_, by omega⟩
    · rcases hkind with rfl | rfl
      · exact hsort
      · simp
    · rcases hkind with rfl | rfl
      · intro hsome
        have := hlive hsome
        omega
      · intro hsome
        cases hsome
  again hclosure := by
    obtain ⟨horphan, hsort⟩ := h.again hclosure
    refine ⟨horphan, ?_⟩
    rcases hkind with rfl | rfl
    · exact hsort
    · simp

/-- Guest code clears the timer. -/
theorem clear (h : Covered issued orphan closure kind n) {n' : Nat} (hfirings : n' ≤ n) :
    Covered issued orphan none none n' where
  unissued hnot := by
    obtain ⟨-, -, hzero, horphan⟩ := h.unissued hnot
    exact ⟨rfl, rfl, by omega, horphan⟩
  uncovered _ hlive := by cases hlive
  once hclosure := by cases hclosure
  again hclosure := by cases hclosure

/-- Guest code creates the timer. -/
theorem create (h : Covered issued orphan closure kind n) (hissued : ¬issued) {issued' : Prop}
    (hgiven : issued') (repeating : Bool) :
    Covered issued' orphan (some repeating) (some repeating) n := by
  obtain ⟨-, -, hzero, horphan⟩ := h.unissued hissued
  refine ⟨fun hnot => absurd hgiven hnot, nofun, ?_, ?_⟩
  · intro hclosure
    cases hclosure
    exact ⟨horphan, by simp, fun _ => hzero, by omega⟩
  · intro hclosure
    cases hclosure
    exact ⟨horphan, by simp⟩

/-- The live timer fires, and is live no more unless it repeats. -/
theorem fire (h : Covered issued orphan closure kind n) {repeating : Bool}
    (hkind : kind = some repeating) {n' : Nat} (hfirings : n' ≤ n + 1) :
    Covered issued orphan closure (if repeating = false then none else kind) n' := by
  subst hkind
  -- a live timer has a number, so nothing is to be shown of it without one
  have hissued : ¬issued → False := fun hnot => by cases (h.unissued hnot).2.1
  cases repeating with
  | true =>
      refine ⟨fun hnot => (hissued hnot).elim, h.uncovered, fun hclosure => ?_, h.again⟩
      exact absurd rfl (h.once hclosure).2.1
  | false =>
      refine ⟨fun hnot => (hissued hnot).elim, fun _ => nofun, fun hclosure => ?_, fun hclosure => ?_⟩
      · obtain ⟨horphan, -, hzero, -⟩ := h.once hclosure
        have := hzero rfl
        exact ⟨horphan, by simp, nofun, by omega⟩
      · exact absurd rfl (h.again hclosure).2

/-- The closure is looked up for a firing, for the last time. -/
theorem use (h : Covered issued orphan (some false) kind n) (hpos : 0 < n) {n' : Nat} :
    Covered issued orphan none kind n' where
  unissued hnot := by cases (h.unissued hnot).1
  uncovered _ hlive := by
    have := (h.once rfl).2.2.1 hlive
    omega
  once hclosure := by cases hclosure
  again hclosure := by cases hclosure

/-- The guest drops all closures.  If the timer is live, it is an orphan from now on. -/
theorem release (h : Covered issued orphan closure kind n) {orphan' : Prop}
    (horphan : orphan' ↔ orphan ∨ kind.isSome = true) : Covered issued orphan' none kind n where
  unissued hnot := by
    obtain ⟨-, hnone, hzero, hfree⟩ := h.unissued hnot
    refine ⟨rfl, hnone, hzero, fun hnew => ?_⟩
    rcases horphan.1 hnew with hold | hlive
    · exact hfree hold
    · rw [hnone] at hlive
      cases hlive
  uncovered _ hlive := horphan.2 (.inr hlive)
  once hclosure := by cases hclosure
  again hclosure := by cases hclosure

end Covered

/-- Every live timer has its closure but for the orphans. -/
structure Covers (orphans : List Nat) (s : Services) (closures : Closures F) (batch : List Callback) :
    Prop where
  indexed : s.queue.Indexed
  covered : ∀ id, Covered (id < s.timers.nextId) (id ∈ orphans) (closures.flag? (.timer id))
    (s.timers.kind? id) (firings s batch id)

theorem covers_start : Covers [] .idle (.empty : Closures F) [] where
  indexed := Queue.indexed_empty
  covered _ := ⟨fun _ => ⟨rfl, rfl, rfl, nofun⟩, fun _ => nofun, nofun, nofun⟩

namespace Covers

variable {orphans : List Nat} {s s' : Services} {closures closures' : Closures F}
  {batch batch' : List Callback}

/-- A live timer has its closure exactly if it is not an orphan. -/
theorem contains_iff (h : Covers orphans s closures batch) {id : Nat}
    (hlive : s.timers.isLive id = true) :
    closures.contains (.timer id) = true ↔ id ∉ orphans := by
  rw [Timers.isLive_eq] at hlive
  rw [Closures.contains_eq]
  have hcovered := h.covered id
  cases hclosure : closures.flag? (.timer id) with
  | none => simpa using hcovered.uncovered hclosure hlive
  | some again =>
      cases again with
      | false => simpa using (hcovered.once hclosure).1
      | true => simpa using (hcovered.again hclosure).1

/-- Timers may end, and entries may be dropped. -/
theorem weaken (h : Covers orphans s closures batch) (hindexed : s'.queue.Indexed)
    (hnext : s'.timers.nextId = s.timers.nextId)
    (hclosure : ∀ id, closures'.flag? (.timer id) = closures.flag? (.timer id))
    (hkind : ∀ id, s'.timers.kind? id = s.timers.kind? id ∨ s'.timers.kind? id = none)
    (hfirings : ∀ id, firings s' batch' id ≤ firings s batch id) :
    Covers orphans s' closures' batch' where
  indexed := hindexed
  covered id := by
    rw [hclosure id, hnext]
    exact (h.covered id).mono (fun hissued => hissued) (hkind id) (hfirings id)

theorem count_discard_le (hindexed : s.queue.Indexed) (id : Nat) (t : Target) :
    (s.queue.discard id).2.count t ≤ s.queue.count t := by
  rw [hindexed.count_discard]
  split <;> omega

/-! ## What other threads do -/

theorem wakeTimer (h : Covers orphans s closures batch) (id : Nat) :
    Covers orphans (s.wakeTimer id) closures batch := by
  rw [Services.wakeTimer]
  split
  · rename_i hdue
    -- the timer is live, so its firing is in the queue afterwards
    obtain ⟨timer, hget⟩ : ∃ timer, s.timers.live.get? id = some timer := by
      cases hget : s.timers.live.get? id with
      | none =>
          rw [hget] at hdue
          cases hdue
      | some timer => exact ⟨timer, rfl⟩
    have hkind : s.timers.kind? id = some timer.repeating := by
      rw [Timers.kind?, hget]
      rfl
    have hqueue : (s.timers.fireAt s.queue id s.now).2 = (s.queue.enqueue (.firing id)).2 := by
      rw [Timers.queue_fireAt, Timers.isLive_eq, hkind]
      rfl
    refine ⟨?_, fun other => ?_⟩
    · show (s.timers.fireAt s.queue id s.now).2.Indexed
      rw [hqueue]
      exact h.indexed.enqueue_firing id
    · show Covered (other < (s.timers.fireAt s.queue id s.now).1.nextId) _ _
        ((s.timers.fireAt s.queue id s.now).1.kind? other)
        ((s.timers.fireAt s.queue id s.now).2.count (.timer other) + occurrences batch (.timer other))
      have hcount := h.indexed.count_enqueue_firing id (.timer other)
      rw [← hqueue] at hcount
      rw [Timers.nextId_fireAt, Timers.kind?_fireAt, hcount]
      by_cases hother : other = id
      · subst hother
        have hmore : 1 + occurrences batch (.timer other) ≤ firings s batch other + 1 := by
          rw [firings]
          omega
        have hfire := (h.covered other).fire hkind hmore
        rw [hkind] at hfire ⊢
        simpa using hfire
      · have htarget : Target.timer other ≠ .timer id := by simpa using hother
        rw [if_neg fun hboth => hother hboth.1, if_neg htarget]
        exact h.covered other
  · exact h

/-- A timer is cancelled without its closure. -/
theorem cancelTimer (h : Covers orphans s closures batch) (id : Nat) :
    Covers orphans (s.cancelTimer id).2 closures batch := by
  refine h.weaken (h.indexed.discard id) rfl (fun _ => rfl) (fun other => ?_) fun other => ?_
  · show (s.timers.remove id).2.kind? other = _ ∨ (s.timers.remove id).2.kind? other = none
    rw [Timers.kind?_remove]
    split
    · exact .inr rfl
    · exact .inl rfl
  · exact Nat.add_le_add_right (count_discard_le h.indexed id _) _

theorem discard (h : Covers orphans s closures batch) (id : Nat) :
    Covers orphans { s with queue := (s.queue.discard id).2 } closures batch :=
  h.weaken (h.indexed.discard id) rfl (fun _ => rfl) (fun _ => .inl rfl) fun _ =>
    Nat.add_le_add_right (count_discard_le h.indexed id _) _

/-- The network has nothing to do with timers, and what it queues is not for them. -/
theorem network (h : Covers orphans s closures batch) (network : Network.Coordinator) :
    Covers orphans { s with network } closures batch :=
  ⟨h.indexed, h.covered⟩

theorem deliver (h : Covers orphans s closures batch) (op : Nat) :
    Covers orphans (s.deliver op) closures batch := by
  show Covers orphans ⟨s.timers, (s.network.deliver s.queue op).2, (s.network.deliver s.queue op).1⟩
    closures batch
  rw [Network.Coordinator.deliver]
  split
  · rename_i completion _ outcome _
    refine h.weaken (h.indexed.enqueue_completion completion outcome) rfl (fun _ => rfl)
      (fun _ => .inl rfl) fun id => ?_
    show (s.queue.enqueue (.completion completion outcome)).2.count (.timer id) + _ ≤ _
    rw [Queue.count_enqueue_completion, if_neg (by simp)]
    exact Nat.le_refl _
  · exact h

/-- All timers are cancelled, and entries go with them or not. -/
theorem endTimers (h : Covers orphans s closures batch) {timers : Timers} {queue : Queue}
    (hnext : timers.nextId = s.timers.nextId) (hkind : ∀ id, timers.kind? id = none)
    (hindexed : queue.Indexed) (hcount : ∀ t, queue.count t ≤ s.queue.count t)
    (network : Network.Coordinator) : Covers orphans ⟨timers, queue, network⟩ closures batch :=
  h.weaken hindexed hnext (fun _ => rfl) (fun id => .inr (hkind id)) fun _ =>
    Nat.add_le_add_right (hcount _) _

theorem discardAll_le {q : Queue} (hindexed : q.Indexed) (ids : List Nat) :
    (Timers.discardAll q ids).Indexed ∧ ∀ t, (Timers.discardAll q ids).count t ≤ q.count t := by
  induction ids generalizing q with
  | nil => exact ⟨hindexed, fun _ => Nat.le_refl _⟩
  | cons id ids ih =>
      obtain ⟨hrest, hcount⟩ := ih (hindexed.discard id)
      refine ⟨hrest, fun t => Nat.le_trans (hcount t) ?_⟩
      rw [hindexed.count_discard]
      split <;> omega

theorem tearDown (h : Covers orphans s closures batch) :
    Covers orphans s.tearDown.2 closures batch := by
  show Covers orphans ⟨{ s.timers with live := .empty },
    (Timers.discardAll s.queue s.timers.live.keys).clear.2, _⟩ closures batch
  refine h.endTimers ?_ (fun _ => ?_) (Queue.indexed_clear _) (fun _ => Nat.zero_le _) _ <;> rfl

theorem endAll (h : Covers orphans s closures batch) (network : Network.Coordinator) :
    Covers orphans ⟨(s.timers.cancelAll s.queue).2.1, (s.timers.cancelAll s.queue).2.2, network⟩
      closures batch := by
  obtain ⟨hindexed, hcount⟩ := discardAll_le h.indexed s.timers.live.keys
  show Covers orphans ⟨{ s.timers with live := .empty },
    Timers.discardAll s.queue s.timers.live.keys, network⟩ closures batch
  refine h.endTimers ?_ (fun _ => ?_) hindexed hcount network <;> rfl

/-! ## What the interpreter does -/

/-- Whatever guest code asks for. -/
theorem effect (h : Covers orphans s closures batch) {request : Ask F}
    (heffect : Effect s closures request s' closures') : Covers orphans s' closures' batch := by
  cases heffect with
  | nothing => exact h
  | @creates delay millis id repeating timers closure hcreate =>
      obtain ⟨rfl, hnext, hkind⟩ := Timers.create_eq_ok hcreate
      refine ⟨h.indexed, fun id => ?_⟩
      show Covered (id < timers.nextId) _ _ (timers.kind? id) _
      rw [hnext, hkind, Closures.flag?_insertTimer]
      by_cases hid : id = s.timers.nextId
      · subst hid
        rw [if_pos rfl, if_pos rfl]
        exact (h.covered _).create (Nat.lt_irrefl _) (Nat.lt_succ_self _) repeating
      · have hother : Target.timer id ≠ .timer s.timers.nextId := by simpa using hid
        rw [if_neg hid, if_neg hother]
        exact (h.covered id).mono Nat.lt_succ_of_lt (.inl rfl) (Nat.le_refl _)
  | clears id =>
      refine ⟨h.indexed.discard id, fun other => ?_⟩
      show Covered (other < s.timers.nextId) _ _ ((s.timers.remove id).2.kind? other)
        ((s.queue.discard id).2.count (.timer other) + occurrences batch (.timer other))
      have hfirings : (s.queue.discard id).2.count (.timer other) + occurrences batch (.timer other) ≤
          firings s batch other := Nat.add_le_add_right (count_discard_le h.indexed id _) _
      rw [Timers.kind?_remove, Closures.flag?_release]
      by_cases hother : other = id
      · rw [hother, if_pos rfl, if_pos rfl]
        exact (h.covered id).clear (hother ▸ hfirings)
      · have htarget : Target.timer other ≠ .timer id := by simpa using hother
        rw [if_neg hother, if_neg htarget]
        exact (h.covered other).mono (fun hissued => hissued) (.inl rfl) hfirings
  | starts closure request =>
      refine h.weaken h.indexed rfl (fun id => ?_) (fun _ => .inl rfl) fun _ => Nat.le_refl _
      rw [Closures.flag?_insertCompletion, if_neg (by simp)]
  | closes => exact h.network _

/-- The closure of a drained callback is looked up. -/
theorem resolve {c : Callback} (h : Covers orphans s closures (c :: batch)) :
    Covers orphans s (closures.resolve c.target).2 batch := by
  refine ⟨h.indexed, fun id => ?_⟩
  have hcovered := h.covered id
  have hfirings : firings s (c :: batch) id =
      firings s batch id + if c.target = .timer id then 1 else 0 := by
    rw [firings, Ready.occurrences_cons, ← Nat.add_assoc]
    rfl
  have hle : firings s batch id ≤ firings s (c :: batch) id := by omega
  rw [Closures.flag?_resolve]
  split
  · rename_i hused
    obtain ⟨htarget, honce⟩ := hused
    rw [← htarget] at honce hfirings
    rw [if_pos rfl] at hfirings
    rw [honce] at hcovered
    exact hcovered.use (by omega)
  · exact hcovered.mono (fun hissued => hissued) (.inl rfl) hle

/-- A pass begins, with a batch of its own. -/
theorem drain (h : Covers orphans s closures batch) :
    Covers orphans { s with queue := s.queue.drain.2 } closures s.queue.drain.1 := by
  refine h.weaken (Queue.indexed_drain _) rfl (fun _ => rfl) (fun _ => .inl rfl) fun id => ?_
  show 0 + s.queue.count (.timer id) ≤ s.queue.count (.timer id) + occurrences batch (.timer id)
  omega

/-- The guest drops all closures, and leaves the live timers behind. -/
theorem release (h : Covers orphans s closures batch) :
    Covers (orphans ++ s.timers.live.keys) s closures.drain.2 batch := by
  refine ⟨h.indexed, fun id => (h.covered id).release ?_⟩
  rw [List.mem_append, Timers.mem_keys_iff, Timers.isLive_eq]

end Covers
end ScriptHost.Desk
