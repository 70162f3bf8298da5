import ScriptHost.Proofs.Network.Active
import ScriptHost.Proofs.Quiescence.Waning
import ScriptHost.Proofs.Ready.Index
import ScriptHost.Proofs.Timer.Liveness

/-!
# Tearing down the services

A teardown goes from service to service, and each refers to the others: timers and operations feed the
queue, and operations open handles.  So what it reports depends on the order.  The firings of live timers
leave the queue with their timers, before what is left in it is counted; operations are aborted before
the handles are closed, so that none of them opens another.

When it is over the services are spent: there are no timers, no operations and no handles.  Nothing comes
of spent services by themselves, whatever happens to them (`Services.Dozes`): without timers and
operations nobody puts anything into the queue, and without operations no handle is opened.
-/

namespace ScriptHost

open Ready (Callback Queue)
open Network (Coordinator Handles)

/-! ## What a teardown takes out -/

namespace Timers

theorem entries_discardAll (ids : List Nat) : ∀ {q : Queue}, q.Indexed →
    (discardAll q ids).entries = q.entries.filter fun c => ids.all (c.target ≠ .timer ·) := by
  induction ids with
  | nil => exact fun _ => (List.filter_eq_self.2 fun _ _ => rfl).symm
  | cons id ids ih =>
      intro q h
      have hrest := ih (h.discard id)
      rw [h.entries_discard, List.filter_filter] at hrest
      rw [discardAll, List.foldl_cons, ← discardAll, hrest]
      refine List.filter_congr fun c _ => ?_
      rw [List.all_cons, Bool.and_comm]

theorem offered_discardAll (ids : List Nat) : ∀ q : Queue,
    (discardAll q ids).offered = q.offered := by
  induction ids with
  | nil => exact fun _ => rfl
  | cons id ids ih => exact fun q => (ih _).trans (q.offered_discard id)

end Timers

namespace Network.Coordinator

theorem get?_dropAll (ops : List Nat) (j : Nat) : ∀ c : Coordinator,
    (ops.foldl drop c).operations.get? j = if j ∈ ops then none else c.operations.get? j := by
  induction ops with
  | nil => exact fun c => (if_neg List.not_mem_nil).symm
  | cons op ops ih =>
      intro c
      rw [List.foldl_cons, ih, get?_drop]
      by_cases hj : j = op <;> simp [hj]

/-- An abort leaves no operation. -/
theorem size_abortAll (c : Coordinator) : c.abortAll.2.operations.size = 0 := by
  refine (Table.size_eq_zero_iff _).2 fun op => ?_
  rw [abortAll, get?_dropAll]
  split
  · rfl
  · rename_i hout
    exact (Table.get?_eq_none_iff _ _).2 hout

/-- An abort leaves the handles to themselves. -/
theorem handles_abortAll (c : Coordinator) : c.abortAll.2.handles = c.handles := by
  rw [abortAll]
  generalize c.operations.keys = ops
  induction ops generalizing c with
  | nil => rfl
  | cons op ops ih =>
      refine (ih (c.drop op)).trans ?_
      rw [drop]
      split <;> rfl

end Network.Coordinator

namespace Services

/-- No timer, no operation and no handle is left. -/
structure Spent (s : Services) : Prop where
  timers : s.timers.size = 0
  operations : s.network.operations.size = 0
  handles : s.network.handles.table.size = 0

/-- Whether a callback is a firing of a live timer. -/
def isLiveFiring (s : Services) (c : Callback) : Bool :=
  match c.target with
  | .timer id => s.timers.isLive id
  | .completion _ => false

/-! ### The parts of a teardown -/

/-- Cancel all timers. -/
def cancelTimers (s : Services) : Services :=
  { s with timers := (s.timers.cancelAll s.queue).2.1, queue := (s.timers.cancelAll s.queue).2.2 }

/-- Abort all operations. -/
def abortOperations (s : Services) : Services := { s with network := s.network.abortAll.2 }

/-- Close all handles. -/
def closeHandles (s : Services) : Services := { s with network := s.network.closeAll.2 }

/-- Drop all callbacks. -/
def dropCallbacks (s : Services) : Services := { s with queue := s.queue.clear.2 }

theorem tearDown_eq (s : Services) :
    s.tearDown.2 = s.cancelTimers.abortOperations.closeHandles.dropCallbacks := rfl

/-! ### What is left, and what is reported -/

theorem spent_tearDown (s : Services) : s.tearDown.2.Spent := by
  rw [tearDown_eq]
  exact ⟨rfl, s.network.size_abortAll, rfl⟩

/-- The queue is counted when the firings of live timers have left it. -/
theorem entries_cancelAll {s : Services} (h : s.queue.Indexed) :
    (s.timers.cancelAll s.queue).2.2.entries = s.queue.entries.filter (!s.isLiveFiring ·) := by
  show (Timers.discardAll s.queue s.timers.live.keys).entries = _
  rw [Timers.entries_discardAll _ h]
  refine List.filter_congr fun c _ => ?_
  rw [Bool.eq_iff_iff, List.all_eq_true, isLiveFiring]
  cases c.target with
  | completion id => simp
  | timer id =>
      have hmem := Timers.mem_keys_iff s.timers id
      show _ ↔ (!s.timers.isLive id) = true
      cases hlive : s.timers.isLive id with
      | true =>
          refine iff_of_false (fun hall => ?_) nofun
          simpa using hall id (hmem.2 hlive)
      | false =>
          refine iff_of_true (fun other hother => ?_) rfl
          rw [decide_eq_true_eq]
          rintro heq
          cases heq
          rw [hmem, hlive] at hother
          cases hother

/-- What a teardown reports. -/
theorem report_tearDown {s : Services} (h : s.queue.Indexed) :
    s.tearDown.1 =
      ⟨s.timers.size, s.network.operations.size,
        s.network.handles.connections + s.network.handles.listeners,
        s.queue.entries.countP (!s.isLiveFiring ·)⟩ := by
  have hclosed : s.network.abortAll.2.handles.table.size =
      s.network.handles.connections + s.network.handles.listeners := by
    rw [Coordinator.handles_abortAll, Handles.size_eq]
  have hdropped : (s.timers.cancelAll s.queue).2.2.entries.length =
      s.queue.entries.countP (!s.isLiveFiring ·) := by
    rw [entries_cancelAll h, List.countP_eq_length_filter]
  rw [← hclosed, ← hdropped]
  rfl

/-- There is nothing to tear down twice. -/
theorem report_of_spent {s : Services} (h : s.Spent) (hqueue : s.queue.entries = []) :
    s.tearDown.1 = ⟨0, 0, 0, 0⟩ := by
  have hclosed : s.network.abortAll.2.handles.table.size = 0 := by
    rw [Coordinator.handles_abortAll, h.handles]
  have hdropped : (Timers.discardAll s.queue s.timers.live.keys).size = 0 :=
    Timers.size_discardAll _ (List.length_eq_zero_iff.2 hqueue)
  show Teardown.mk s.timers.size s.network.operations.size
    s.network.abortAll.2.handles.table.size (Timers.discardAll s.queue s.timers.live.keys).size = _
  rw [h.timers, h.operations, hclosed, hdropped]

/-! ## Without guest code -/

/-- What can come of services without guest code, while so many callbacks are offered by others.  No
timer and no operation begins.  Only operations open handles, and only timers and operations offer
callbacks. -/
structure Dozes (s s' : Services) (offers : Nat) : Prop where
  timers : s.timers.size = 0 → s'.timers.size = 0
  operations : s.network.operations.size = 0 → s'.network.operations.size = 0
  handles : s.network.operations.size = 0 → s.network.handles.table.size = 0 →
    s'.network.handles.table.size = 0
  next : s.network.operations.size = 0 → s'.network.handles.next = s.network.handles.next
  offered : s.timers.size = 0 → s.network.operations.size = 0 →
    s'.queue.offered = s.queue.offered + offers
  queue : s.timers.size = 0 → s.network.operations.size = 0 → offers = 0 → s.queue.entries = [] →
    s'.queue.entries = []

variable {s s' : Services} {offers more : Nat}

theorem Dozes.refl (s : Services) : s.Dozes s 0 where
  timers h := h
  operations h := h
  handles _ h := h
  next _ := rfl
  offered _ _ := rfl
  queue _ _ _ h := h

theorem Dozes.trans {s'' : Services} (h : s.Dozes s' offers) (k : s'.Dozes s'' more) :
    s.Dozes s'' (offers + more) where
  timers ht := k.timers (h.timers ht)
  operations ho := k.operations (h.operations ho)
  handles ho hh := k.handles (h.operations ho) (h.handles ho hh)
  next ho := (k.next (h.operations ho)).trans (h.next ho)
  offered ht ho := by
    rw [k.offered (h.timers ht) (h.operations ho), h.offered ht ho, Nat.add_assoc]
  queue ht ho hnone hq := by
    obtain ⟨hfirst, hsecond⟩ := Nat.add_eq_zero_iff.1 hnone
    exact k.queue (h.timers ht) (h.operations ho) hsecond (h.queue ht ho hfirst hq)

theorem Dozes.spent (h : s.Dozes s' offers) (hspent : s.Spent) : s'.Spent where
  timers := h.timers hspent.timers
  operations := h.operations hspent.operations
  handles := h.handles hspent.operations hspent.handles

theorem Dozes.ofTimers {timers : Timers} (htimers : s.timers.size = 0 → timers.size = 0) :
    s.Dozes { s with timers } 0 :=
  { Dozes.refl s with timers := htimers }

theorem Dozes.ofQueue {queue : Queue} (hoffered : queue.offered = s.queue.offered + offers)
    (hqueue : offers = 0 → s.queue.entries = [] → queue.entries = []) :
    s.Dozes { s with queue } offers where
  timers h := h
  operations h := h
  handles _ h := h
  next _ := rfl
  offered _ _ := hoffered
  queue _ _ := hqueue

/-- What happens to operations happens to none if there are none. -/
theorem Dozes.ofNetwork {network : Coordinator}
    (hstill : s.network.operations.size = 0 → network = s.network) : s.Dozes { s with network } 0 where
  timers h := h
  operations h := by rw [hstill h]; exact h
  handles ho h := by rw [hstill ho]; exact h
  next ho := by rw [hstill ho]
  offered _ _ := rfl
  queue _ _ _ h := h

theorem dozes_drain (s : Services) : s.Dozes { s with queue := s.queue.drain.2 } 0 :=
  .ofQueue rfl fun _ _ => rfl

theorem dozes_discard (s : Services) (id : Nat) :
    s.Dozes { s with queue := (s.queue.discard id).2 } 0 := by
  refine .ofQueue (s.queue.offered_discard id) fun _ hempty => ?_
  exact List.length_eq_zero_iff.1 (Queue.size_discard (List.length_eq_zero_iff.2 hempty) id)

theorem dozes_cancelTimer (s : Services) (id : Nat) : s.Dozes (s.cancelTimer id).2 0 := by
  have hfirst : s.Dozes { s with timers := (s.timers.remove id).2 } 0 :=
    .ofTimers fun h => Timers.size_erase h id
  exact hfirst.trans (dozes_discard _ id)

theorem dozes_wakeTimer (s : Services) (id : Nat) : s.Dozes (s.wakeTimer id) 0 where
  timers h := by rw [wakeTimer_still h]; exact h
  operations h := by rw [network_wakeTimer]; exact h
  handles _ h := by rw [network_wakeTimer]; exact h
  next _ := by rw [network_wakeTimer]
  offered h _ := by rw [wakeTimer_still h]; rfl
  queue h _ _ hempty := by rw [wakeTimer_still h]; exact hempty

theorem dozes_deliver (s : Services) (op : Nat) : s.Dozes (s.deliver op) 0 where
  timers h := h
  operations h := by rw [deliver_still h]; exact h
  handles hnone h := by rw [deliver_still hnone]; exact h
  next hnone := by rw [deliver_still hnone]
  offered _ hnone := by rw [deliver_still hnone]; rfl
  queue _ hnone _ hempty := by rw [deliver_still hnone]; exact hempty

/-- Cancelling all timers and aborting all operations. -/
theorem dozes_endAll (s : Services) :
    s.Dozes ⟨(s.timers.cancelAll s.queue).2.1, (s.timers.cancelAll s.queue).2.2,
      s.network.abortAll.2⟩ 0 where
  timers _ := rfl
  operations _ := s.network.size_abortAll
  handles _ h := by rw [Coordinator.handles_abortAll]; exact h
  next _ := by rw [Coordinator.handles_abortAll]
  offered _ _ := Timers.offered_discardAll _ _
  queue _ _ _ hempty :=
    List.length_eq_zero_iff.1 (Timers.size_discardAll _ (List.length_eq_zero_iff.2 hempty))

theorem dozes_tearDown (s : Services) : s.Dozes s.tearDown.2 0 where
  timers _ := rfl
  operations _ := s.network.size_abortAll
  handles _ _ := rfl
  next := (dozes_endAll s).next
  offered := (dozes_endAll s).offered
  queue _ _ _ _ := rfl

end Services
end ScriptHost
