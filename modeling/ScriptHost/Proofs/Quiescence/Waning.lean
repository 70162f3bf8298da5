import ScriptHost.Proofs.Quiescence.Counts

/-!
# Counts that stay at zero

The counts of a tally are read one after the other, and what was zero at its reading need not be zero
any more when the last one is read.  It is the order of the readings that helps: operations come
first, timers before the queue.  While no guest code runs, an operation starts never, a timer comes
into being never, and only operations and timers put anything anywhere.  So the counts that have been
read as zero stay at zero as long as all counts before them were zero too (`Services.ClearedTo`), and
whatever happens to the services without guest code keeps that (`Services.Wanes`).
-/

namespace ScriptHost

open Ready (Queue)
open Network (Coordinator)

/-- The first so many counts, in the order in which they are read, are zero. -/
structure Services.ClearedTo (k : Nat) (s : Services) : Prop where
  operations : 0 < k → s.network.operations.size = 0
  timers : 1 < k → s.timers.size = 0
  active : 2 < k → s.network.active = 0
  connections : 3 < k → s.network.handles.connections = 0
  listeners : 4 < k → s.network.handles.listeners = 0
  queue : 5 < k → s.queue.size = 0

/-- Nothing new has come: a count is zero if it was, and with it those that it lives on. -/
structure Services.Wanes (s s' : Services) : Prop where
  operations : s.network.operations.size = 0 → s'.network.operations.size = 0
  timers : s.network.operations.size = 0 → s.timers.size = 0 → s'.timers.size = 0
  active : s.network.operations.size = 0 → s.network.active = 0 → s'.network.active = 0
  connections : s.network.operations.size = 0 → s.network.handles.connections = 0 →
    s'.network.handles.connections = 0
  listeners : s.network.operations.size = 0 → s.network.handles.listeners = 0 →
    s'.network.handles.listeners = 0
  queue : s.network.operations.size = 0 → s.timers.size = 0 → s.queue.size = 0 →
    s'.queue.size = 0

/-! ## The three services -/

namespace Ready.Queue

theorem size_discard {q : Queue} (hempty : q.size = 0) (id : Nat) : (q.discard id).2.size = 0 := by
  have hnone : q.entries = [] := List.length_eq_zero_iff.1 hempty
  rw [discard]
  split
  · show (q.entries.filter _).length = 0
    rw [hnone]
    rfl
  · exact hempty

end Ready.Queue

namespace Timers

theorem size_discardAll (ids : List Nat) :
    ∀ {q : Queue}, q.size = 0 → (discardAll q ids).size = 0 := by
  induction ids with
  | nil => exact fun hempty => hempty
  | cons id ids ih => exact fun hempty => ih (Queue.size_discard hempty id)

theorem size_erase {t : Timers} (hnone : t.size = 0) (id : Nat) : (t.live.erase id).size = 0 := by
  refine (Table.size_eq_zero_iff _).2 fun j => ?_
  rw [Table.get?_erase, (Table.size_eq_zero_iff _).1 hnone j, ite_self]

end Timers

namespace Network.Coordinator

variable {c : Coordinator}

/-- Without operations nothing happens to them. -/
theorem still (hnone : c.operations.size = 0) (op : Nat) :
    c.begin op = c ∧ (∀ r, c.reply op r = c) ∧ c.giveUp op = c ∧ c.retire op = c ∧
      ∀ q, c.deliver q op = (c, q) := by
  have hget := (Table.size_eq_zero_iff _).1 hnone op
  refine ⟨?_, fun r => ?_, ?_, ?_, fun q => ?_⟩
  · rw [begin, hget]
  · rw [reply, hget]
  · rw [giveUp, hget]
  · rw [retire, hget]
  · rw [deliver, hget]

/-- Without operations there is nothing to abort. -/
theorem abortAll_still (hnone : c.operations.size = 0) : c.abortAll.2 = c := by
  have hkeys : c.operations.keys = [] := by
    rw [Table.keys, List.length_eq_zero_iff.1 hnone]
    rfl
  rw [abortAll, hkeys]
  rfl

end Network.Coordinator

/-! ## What happens to the services -/

namespace Services

variable {s : Services}

theorem ClearedTo.zero (s : Services) : s.ClearedTo 0 where
  operations := fun hk => absurd hk (by omega)
  timers := fun hk => absurd hk (by omega)
  active := fun hk => absurd hk (by omega)
  connections := fun hk => absurd hk (by omega)
  listeners := fun hk => absurd hk (by omega)
  queue := fun hk => absurd hk (by omega)

/-- The next count is read as zero. -/
theorem ClearedTo.next {k : Nat} {c : Quiescence.Count} (h : s.ClearedTo k)
    (hc : Quiescence.Count.order[k]? = some c) (hzero : c.read s = 0) : s.ClearedTo (k + 1) := by
  have hk : k < 6 := (List.getElem?_eq_some_iff.1 hc).1
  have hread (j : Nat) (hj : j < k + 1) : j < k ∨ Quiescence.Count.order[j]? = some c := by
    rcases Nat.lt_succ_iff_lt_or_eq.1 hj with hlt | rfl
    · exact .inl hlt
    · exact .inr hc
  exact {
    operations := fun hlt => (hread 0 hlt).elim h.operations fun heq => by cases heq; exact hzero
    timers := fun hlt => (hread 1 hlt).elim h.timers fun heq => by cases heq; exact hzero
    active := fun hlt => (hread 2 hlt).elim h.active fun heq => by cases heq; exact hzero
    connections := fun hlt => (hread 3 hlt).elim h.connections fun heq => by cases heq; exact hzero
    listeners := fun hlt => (hread 4 hlt).elim h.listeners fun heq => by cases heq; exact hzero
    queue := fun hlt => (hread 5 hlt).elim h.queue fun heq => by cases heq; exact hzero }

theorem ClearedTo.settled (h : s.ClearedTo Quiescence.Count.order.length) : s.Settled := by
  rw [← Quiescence.outstanding_eq_zero_iff, Quiescence.outstanding_eq_zero_iff_counts]
  exact ⟨h.operations (by decide), h.timers (by decide), h.active (by decide),
    h.connections (by decide), h.listeners (by decide), h.queue (by decide)⟩

/-- What is cleared stays cleared. -/
theorem Wanes.cleared {s' : Services} {k : Nat} (hw : s.Wanes s') (h : s.ClearedTo k) :
    s'.ClearedTo k where
  operations := fun hk => hw.operations (h.operations hk)
  timers := fun hk => hw.timers (h.operations (by omega)) (h.timers hk)
  active := fun hk => hw.active (h.operations (by omega)) (h.active hk)
  connections := fun hk => hw.connections (h.operations (by omega)) (h.connections hk)
  listeners := fun hk => hw.listeners (h.operations (by omega)) (h.listeners hk)
  queue := fun hk => hw.queue (h.operations (by omega)) (h.timers (by omega)) (h.queue hk)

theorem Wanes.refl (s : Services) : s.Wanes s where
  operations := fun h => h
  timers := fun _ h => h
  active := fun _ h => h
  connections := fun _ h => h
  listeners := fun _ h => h
  queue := fun _ _ h => h

/-- Whatever becomes of the timers, without any of them none comes. -/
theorem Wanes.ofTimers {timers : Timers} (htimers : s.timers.size = 0 → timers.size = 0) :
    s.Wanes { s with timers } :=
  { Wanes.refl s with timers := fun _ => htimers }

/-- Whatever becomes of the queue, if it is empty it stays so. -/
theorem Wanes.ofQueue {queue : Queue} (hqueue : s.queue.size = 0 → queue.size = 0) :
    s.Wanes { s with queue } :=
  { Wanes.refl s with queue := fun _ _ => hqueue }

/-- Whatever becomes of the operations, without any of them nothing does. -/
theorem Wanes.ofNetwork {network : Coordinator}
    (hstill : s.network.operations.size = 0 → network = s.network) :
    s.Wanes { s with network } where
  operations := fun h => by rw [hstill h]; exact h
  timers := fun _ h => h
  active := fun hnone h => by rw [hstill hnone]; exact h
  connections := fun hnone h => by rw [hstill hnone]; exact h
  listeners := fun hnone h => by rw [hstill hnone]; exact h
  queue := fun _ _ h => h

theorem wanes_cancelTimer (s : Services) (id : Nat) : s.Wanes (s.cancelTimer id).2 :=
  { Wanes.refl s with
    timers := fun _ h => Timers.size_erase h id
    queue := fun _ _ h => Queue.size_discard h id }

@[simp] theorem network_wakeTimer (s : Services) (id : Nat) : (s.wakeTimer id).network = s.network := by
  rw [wakeTimer]
  split <;> rfl

/-- Without live timers a wake-up finds none. -/
theorem wakeTimer_still (hnone : s.timers.size = 0) (id : Nat) : s.wakeTimer id = s := by
  rw [wakeTimer, (Table.size_eq_zero_iff _).1 hnone id]
  rfl

/-- Without operations none has a callback to deliver. -/
theorem deliver_still (hnone : s.network.operations.size = 0) (op : Nat) : s.deliver op = s := by
  rw [deliver, (Coordinator.still hnone op).2.2.2.2 s.queue]

/-- A timer that fires lives, and queues what the readings have yet to come to. -/
theorem wanes_wakeTimer (s : Services) (id : Nat) : s.Wanes (s.wakeTimer id) where
  operations := fun h => by rw [network_wakeTimer]; exact h
  timers := fun _ h => by rw [wakeTimer_still h]; exact h
  active := fun _ h => by rw [network_wakeTimer]; exact h
  connections := fun _ h => by rw [network_wakeTimer]; exact h
  listeners := fun _ h => by rw [network_wakeTimer]; exact h
  queue := fun _ hnone h => by rw [wakeTimer_still hnone]; exact h

theorem wanes_deliver (s : Services) (op : Nat) : s.Wanes (s.deliver op) where
  operations := fun h => by rw [deliver_still h]; exact h
  timers := fun hnone h => by rw [deliver_still hnone]; exact h
  active := fun hnone h => by rw [deliver_still hnone]; exact h
  connections := fun hnone h => by rw [deliver_still hnone]; exact h
  listeners := fun hnone h => by rw [deliver_still hnone]; exact h
  queue := fun hnone _ h => by rw [deliver_still hnone]; exact h

/-- Cancelling all timers and aborting all operations. -/
theorem wanes_endAll (s : Services) :
    s.Wanes ⟨(s.timers.cancelAll s.queue).2.1, (s.timers.cancelAll s.queue).2.2,
      s.network.abortAll.2⟩ where
  operations := fun h => by rw [Coordinator.abortAll_still h]; exact h
  timers := fun _ _ => rfl
  active := fun hnone h => by rw [Coordinator.abortAll_still hnone]; exact h
  connections := fun hnone h => by rw [Coordinator.abortAll_still hnone]; exact h
  listeners := fun hnone h => by rw [Coordinator.abortAll_still hnone]; exact h
  queue := fun _ _ h => Timers.size_discardAll _ h

theorem wanes_tearDown (s : Services) : s.Wanes s.tearDown.2 where
  operations := fun h => (wanes_endAll s).operations h
  timers := fun _ _ => rfl
  active := fun hnone h => (wanes_endAll s).active hnone h
  connections := fun _ _ => rfl
  listeners := fun _ _ => rfl
  queue := fun _ _ _ => rfl

end Services
end ScriptHost
