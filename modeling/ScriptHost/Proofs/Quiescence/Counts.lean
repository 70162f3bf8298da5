import ScriptHost.Proofs.Network.Handles
import ScriptHost.Proofs.Quiescence.Sums
import ScriptHost.Service.Tally

/-!
# What an idle tally says

The counts of a tally are machine words, so it says how much is outstanding only as long as the counts
together fit into a word.  Then it can be added up, and if it is idle all six are zero, and nothing of
what the services keep is left.
-/

namespace ScriptHost

/-- Nothing is left of what the services keep. -/
structure Services.Settled (s : Services) : Prop where
  timers : ∀ id, s.timers.isLive id = false
  operations : ∀ op, s.network.operations.get? op = none
  active : s.network.active = 0
  handles : ∀ id kind, s.network.handles.isOpen kind id = false
  queue : s.queue.entries = []

namespace Network.Handles

theorem count_eq_zero_iff (h : Handles) (kind : Kind) :
    h.count kind = 0 ↔ ∀ id, h.isOpen kind id = false := by
  rw [count_eq]
  constructor
  · intro hzero id
    refine decide_eq_false fun hget => ?_
    have hpos := (Table.countP_values_pos_iff h.table (· = kind)).2 ⟨id, kind, hget, by simp⟩
    omega
  · intro hclosed
    refine Nat.eq_zero_of_not_pos fun hpos => ?_
    obtain ⟨id, other, hget, hkind⟩ := (Table.countP_values_pos_iff h.table (· = kind)).1 hpos
    rw [decide_eq_true_eq] at hkind
    subst hkind
    exact of_decide_eq_false (hclosed id) hget

/-- Every handle is counted, as a connection or as a listener. -/
theorem counts_eq_zero_iff (h : Handles) :
    h.connections = 0 ∧ h.listeners = 0 ↔ ∀ id kind, h.isOpen kind id = false := by
  rw [connections, listeners, Nat.add_eq_zero_iff, count_eq_zero_iff, count_eq_zero_iff,
    count_eq_zero_iff]
  constructor
  · rintro ⟨⟨hstream, hdatagram⟩, hlistener⟩ id kind
    cases kind with
    | stream => exact hstream id
    | datagram => exact hdatagram id
    | listener => exact hlistener id
  · intro hclosed
    exact ⟨⟨fun id => hclosed id _, fun id => hclosed id _⟩, fun id => hclosed id _⟩

end Network.Handles

namespace Quiescence

/-- The tally of counts that have been read one after the other. -/
def Tally.ofCounts (counts : List Nat) : Tally :=
  (Count.order.zip counts).foldl (fun t read => t.enter read.1 read.2) .zero

/-- Several counts together. -/
def together : List Nat → Nat
  | [] => 0
  | n :: rest => n + together rest

theorem together_append (counts more : List Nat) :
    together (counts ++ more) = together counts + together more := by
  induction counts with
  | nil => exact (Nat.zero_add _).symm
  | cons n counts ih => exact (congrArg (n + ·) ih).trans (Nat.add_assoc _ _ _).symm

theorem sum_ofCounts {counts : List Nat} (hall : counts.length = Count.order.length)
    (hfits : together counts < UInt64.size) : (Tally.ofCounts counts).sum = together counts := by
  obtain ⟨a, b, c, d, e, f, rfl⟩ : ∃ a b c d e f, counts = [a, b, c, d, e, f] := by
    match counts, hall with
    | [a, b, c, d, e, f], _ => exact ⟨a, b, c, d, e, f, rfl⟩
  simp only [together] at hfits ⊢
  have hword {n : Nat} (hlt : n < UInt64.size) : n.toUInt64.toNat = n :=
    UInt64.toNat_ofNat_of_lt' hlt
  show a.toUInt64.toNat + b.toUInt64.toNat + c.toUInt64.toNat + d.toUInt64.toNat +
    e.toUInt64.toNat + f.toUInt64.toNat = _
  rw [hword (n := a) (by omega), hword (n := b) (by omega), hword (n := c) (by omega),
    hword (n := d) (by omega), hword (n := e) (by omega), hword (n := f) (by omega)]
  omega

/-- Counts that fit into a word together make a tally that is idle or not. -/
theorem isIdle?_ofCounts {counts : List Nat} (hall : counts.length = Count.order.length)
    (hfits : together counts < UInt64.size) :
    (Tally.ofCounts counts).isIdle? = some (decide (together counts = 0)) := by
  have hsum := sum_ofCounts hall hfits
  have hword : (Tally.ofCounts counts).Fits := by rwa [Tally.Fits, hsum]
  rw [Tally.isIdle?_of_fits hword, ← hsum]
  exact congrArg some (decide_eq_decide.2 (Tally.sum_eq_zero_iff _).symm)

/-- The counts as they are at one moment. -/
def counts (s : Services) : List Nat := Count.order.map (Count.read s)

/-- All that is outstanding. -/
def outstanding (s : Services) : Nat := together (counts s)

theorem ofServices_eq (s : Services) : Tally.ofServices s = Tally.ofCounts (counts s) := rfl

theorem isIdle?_ofServices {s : Services} (hfits : outstanding s < UInt64.size) :
    (Tally.ofServices s).isIdle? = some (decide (outstanding s = 0)) := by
  rw [ofServices_eq]
  exact isIdle?_ofCounts (List.length_map _) hfits

/-- Nothing is outstanding exactly if each count is zero. -/
theorem outstanding_eq_zero_iff_counts (s : Services) :
    outstanding s = 0 ↔ s.network.operations.size = 0 ∧ s.timers.size = 0 ∧
      s.network.active = 0 ∧ s.network.handles.connections = 0 ∧
      s.network.handles.listeners = 0 ∧ s.queue.size = 0 := by
  show _ + (_ + (_ + (_ + (_ + (_ + 0))))) = 0 ↔ _
  simp only [Nat.add_eq_zero_iff, Nat.add_zero]
  exact Iff.rfl

/-- Nothing is outstanding exactly if nothing is left. -/
theorem outstanding_eq_zero_iff (s : Services) : outstanding s = 0 ↔ s.Settled := by
  rw [outstanding_eq_zero_iff_counts]
  constructor
  · rintro ⟨hoperations, htimers, hactive, hconnections, hlisteners, hqueue⟩
    exact {
      timers := fun id => by
        rw [Timers.isLive, Table.contains, (Table.size_eq_zero_iff _).1 htimers id]
        rfl
      operations := (Table.size_eq_zero_iff _).1 hoperations
      active := hactive
      handles := (Network.Handles.counts_eq_zero_iff _).1 ⟨hconnections, hlisteners⟩
      queue := List.length_eq_zero_iff.1 hqueue }
  · intro h
    obtain ⟨hconnections, hlisteners⟩ := (Network.Handles.counts_eq_zero_iff _).2 h.handles
    refine ⟨(Table.size_eq_zero_iff _).2 h.operations, (Table.size_eq_zero_iff _).2 fun id => ?_,
      h.active, hconnections, hlisteners, List.length_eq_zero_iff.2 h.queue⟩
    have hdead := h.timers id
    rw [Timers.isLive, Table.contains, Option.isSome_eq_false_iff, Option.isNone_iff_eq_none] at hdead
    exact hdead

end Quiescence
end ScriptHost
