import ScriptHost.Proofs.Network.Flight

/-!
# The count of active operations

An operation is counted before its task is spawned, and the task makes the decrement when it ends,
however it ends, after it has run for the first time.  Between the two lies the one stage at which
nobody is there to make it: the task of an operation that is aborted while it has not run takes its
count with it.  So the count is the number of the operations whose task has not ended and of those
that have been lost in this way (`Balanced`), for good: nothing ever lowers the second number.
-/

namespace ScriptHost.Network

open Ready (Queue)

/-- Whether the task of an operation has not run yet. -/
def Stage.isSpawned : Stage → Bool
  | .spawned => true
  | _ => false

/-- What happens to operations and to their tasks. -/
inductive Occurrence where
  | start (request : Request) (completion : Nat)
  | begin (op : Nat)
  | reply (op : Nat) (r : Reply)
  | giveUp (op : Nat)
  | deliver (q : Queue) (op : Nat)
  | retire (op : Nat)
  /-- The task of an operation panics, be it when it runs for the first time. -/
  | panic (op : Nat)
  | abort (op : Nat)
  | abortAll
  | close (kind : Kind) (id : Nat)
  | closeAll

namespace Coordinator

/-- What an occurrence does. -/
def occur (c : Coordinator) : Occurrence → Coordinator
  | .start request completion => (c.start request completion).2
  | .begin op => c.begin op
  | .reply op r => c.reply op r
  | .giveUp op => c.giveUp op
  | .deliver q op => (c.deliver q op).1
  | .retire op => c.retire op
  | .panic op => (c.begin op).drop op
  | .abort op => c.drop op
  | .abortAll => c.abortAll.2
  | .close kind id => (c.close kind id).2
  | .closeAll => c.closeAll.2

/-- Whether an operation has been spawned and its task has not run yet. -/
def isUnbegun (c : Coordinator) (op : Nat) : Bool := (c.operations.get? op).any (·.stage.isSpawned)

/-- How many operations an occurrence aborts before their tasks have run. -/
def losses (c : Coordinator) : Occurrence → Nat
  | .abort op => if c.isUnbegun op then 1 else 0
  | .abortAll => c.operations.keys.countP c.isUnbegun
  | _ => 0

/-- A run of occurrences. -/
def follow (c : Coordinator) (run : List Occurrence) : Coordinator := run.foldl occur c

/-- How many operations a run aborts before their tasks have run. -/
def lost : Coordinator → List Occurrence → Nat
  | _, [] => 0
  | c, o :: run => c.losses o + (c.occur o).lost run

/-- The count is the number of operations whose task has not ended, and of those that are lost. -/
structure Balanced (c : Coordinator) (lost : Nat) : Prop where
  numbered : c.Numbered
  active : c.active = c.operations.size + lost

variable {c : Coordinator} {n : Nat}

theorem balanced_empty : empty.Balanced 0 := ⟨numbered_empty, rfl⟩

/-! ## One operation -/

theorem Balanced.setStage (h : c.Balanced n) (op : Nat) (stage : Stage) :
    (c.setStage op stage).Balanced n where
  numbered := h.numbered.setStage op stage
  active := by
    rw [Coordinator.setStage, Table.size_modify]
    exact h.active

theorem Balanced.handles (h : c.Balanced n) (handles : Handles) :
    Balanced { c with handles } n := ⟨h.numbered, h.active⟩

theorem Balanced.start (h : c.Balanced n) (request : Request) (completion : Nat) :
    (c.start request completion).2.Balanced n where
  numbered := h.numbered.start request completion
  active := by
    show c.active + 1 = (c.operations.insert c.nextOperation _).size + n
    rw [Table.size_insert _ _ h.numbered.get?_next, h.active]
    omega

theorem Balanced.begin (h : c.Balanced n) (op : Nat) : (c.begin op).Balanced n := by
  rw [Coordinator.begin]
  split
  · split <;> exact h.setStage op _
  · exact h

theorem Balanced.reply (h : c.Balanced n) (op : Nat) (r : Reply) : (c.reply op r).Balanced n := by
  rw [Coordinator.reply]
  split
  · exact (h.handles _).setStage op _
  · exact h

theorem Balanced.giveUp (h : c.Balanced n) (op : Nat) : (c.giveUp op).Balanced n := by
  rw [Coordinator.giveUp]
  split
  · split
    · split
      · exact h.setStage op _
      · exact h
    · exact h
  · exact h

theorem Balanced.deliver (h : c.Balanced n) (q : Queue) (op : Nat) :
    (c.deliver q op).1.Balanced n := by
  rw [Coordinator.deliver]
  split
  · exact h.setStage op _
  · exact h

theorem Numbered.erase (h : c.Numbered) (op active : Nat) :
    Numbered { c with active, operations := c.operations.erase op } := by
  intro j o hget
  rw [Table.get?_erase] at hget
  split at hget
  · cases hget
  · exact h j o hget

/-- A task that makes the decrement when it ends. -/
theorem Balanced.decrement (h : c.Balanced n) {op : Nat} {o : Operation}
    (hget : c.operations.get? op = some o) :
    Balanced { c with active := c.active - 1, operations := c.operations.erase op } n where
  numbered := h.numbered.erase op _
  active := by
    have hsize := c.operations.size_erase hget
    have hactive := h.active
    show c.active - 1 = (c.operations.erase op).size + n
    omega

theorem Balanced.retire (h : c.Balanced n) (op : Nat) : (c.retire op).Balanced n := by
  rw [Coordinator.retire]
  split
  · rename_i hget
    exact h.decrement hget
  · exact h

theorem get?_drop (c : Coordinator) (op j : Nat) :
    (c.drop op).operations.get? j = if j = op then none else c.operations.get? j := by
  rw [drop]
  split
  · exact Table.get?_erase _ _ _
  · exact Table.get?_erase _ _ _
  · rename_i hnone
    split
    · rename_i hj
      rw [hj, hnone]
    · rfl

/-- A task that is dropped makes the decrement unless it has not run. -/
theorem Balanced.drop (h : c.Balanced n) (op : Nat) :
    (c.drop op).Balanced (n + if c.isUnbegun op then 1 else 0) := by
  rw [Coordinator.drop, isUnbegun]
  cases hget : c.operations.get? op with
  | none => exact h
  | some o =>
      obtain ⟨completion, request, stage⟩ := o
      cases stage with
      | spawned =>
          -- the operation goes and its count stays
          have hsize := c.operations.size_erase hget
          have hactive := h.active
          refine ⟨h.numbered.erase op c.active, ?_⟩
          show c.active = (c.operations.erase op).size + (n + 1)
          omega
      | waiting => exact h.decrement hget
      | finished outcome => exact h.decrement hget
      | queued => exact h.decrement hget

theorem isUnbegun_setStage (c : Coordinator) (op : Nat) {stage : Stage}
    (hstage : stage.isSpawned = false) : (c.setStage op stage).isUnbegun op = false := by
  rw [isUnbegun, setStage, Table.get?_modify, if_pos rfl]
  cases c.operations.get? op with
  | none => rfl
  | some o => exact hstage

theorem isUnbegun_begin (c : Coordinator) (op : Nat) : (c.begin op).isUnbegun op = false := by
  cases hget : c.operations.get? op with
  | none => simp [begin, isUnbegun, hget]
  | some o =>
      obtain ⟨completion, request, stage⟩ := o
      cases stage with
      | spawned =>
          simp only [begin, hget]
          split <;> exact c.isUnbegun_setStage op rfl
      | waiting | finished | queued => simp [begin, isUnbegun, hget, Stage.isSpawned]

/-- A task that panics has run. -/
theorem Balanced.panic (h : c.Balanced n) (op : Nat) : ((c.begin op).drop op).Balanced n := by
  have hdrop := (h.begin op).drop op
  rw [isUnbegun_begin] at hdrop
  exact hdrop

/-! ## All operations -/

/-- Dropping one operation leaves the stages of the others. -/
theorem isUnbegun_drop (c : Coordinator) {op other : Nat} (hother : other ≠ op) :
    (c.drop op).isUnbegun other = c.isUnbegun other := by
  have herase : ∀ active, isUnbegun { c with active, operations := c.operations.erase op } other =
      c.isUnbegun other := by
    intro active
    rw [isUnbegun, Table.get?_erase, if_neg hother, isUnbegun]
  rw [drop]
  split
  · exact herase _
  · exact herase _
  · rfl

theorem Balanced.dropAll (ops : List Nat) : ∀ {c : Coordinator} {n : Nat}, ops.Nodup →
    c.Balanced n → (ops.foldl Coordinator.drop c).Balanced (n + ops.countP c.isUnbegun) := by
  induction ops with
  | nil => exact fun _ h => h
  | cons op ops ih =>
      intro c n hnodup h
      obtain ⟨hnot, hrest⟩ := List.nodup_cons.1 hnodup
      -- the others are at the stages at which they were before the first was dropped
      have hsame : ops.countP (c.drop op).isUnbegun = ops.countP c.isUnbegun := by
        refine List.countP_congr fun other hmem => ?_
        have hother : other ≠ op := by
          rintro rfl
          exact hnot hmem
        rw [c.isUnbegun_drop hother]
      have hall := ih hrest (h.drop op)
      rw [hsame] at hall
      rw [List.countP_cons, List.foldl_cons, Nat.add_comm (ops.countP _), ← Nat.add_assoc]
      exact hall

theorem Balanced.abortAll (h : c.Balanced n) :
    c.abortAll.2.Balanced (n + c.operations.keys.countP c.isUnbegun) :=
  h.dropAll c.operations.keys c.operations.nodup_keys

/-! ## A run -/

theorem Balanced.occur (h : c.Balanced n) (o : Occurrence) :
    (c.occur o).Balanced (n + c.losses o) := by
  cases o with
  | start request completion => exact h.start request completion
  | begin op => exact h.begin op
  | reply op r => exact h.reply op r
  | giveUp op => exact h.giveUp op
  | deliver q op => exact h.deliver q op
  | retire op => exact h.retire op
  | panic op => exact h.panic op
  | abort op => exact h.drop op
  | abortAll => exact h.abortAll
  | close kind id => exact h.handles _
  | closeAll => exact h.handles _

theorem Balanced.follow (run : List Occurrence) : ∀ {c : Coordinator} {n : Nat}, c.Balanced n →
    (c.follow run).Balanced (n + c.lost run) := by
  induction run with
  | nil => exact fun h => h
  | cons o run ih =>
      intro c n h
      have hrun := ih (h.occur o)
      rw [Nat.add_assoc] at hrun
      exact hrun

theorem lost_append (run later : List Occurrence) : ∀ c : Coordinator,
    c.lost (run ++ later) = c.lost run + (c.follow run).lost later := by
  induction run with
  | nil => exact fun c => (Nat.zero_add _).symm
  | cons o run ih =>
      intro c
      have hrest := ih (c.occur o)
      show c.losses o + (c.occur o).lost (run ++ later) = c.losses o + (c.occur o).lost run + _
      rw [hrest, Nat.add_assoc]
      rfl

/-- Whether an occurrence aborts an operation whose task has not run. -/
def AbortsUnbegun (c : Coordinator) : Occurrence → Prop
  | .abort op => c.isUnbegun op = true
  | .abortAll => ∃ op, c.isUnbegun op = true
  | _ => False

theorem losses_eq_zero_iff (c : Coordinator) (o : Occurrence) :
    c.losses o = 0 ↔ ¬c.AbortsUnbegun o := by
  cases o with
  | abort op => simp [losses, AbortsUnbegun]
  | abortAll =>
      have hkey : ∀ op, c.isUnbegun op = true → op ∈ c.operations.keys := by
        intro op hunbegun
        rw [← Table.contains_iff, Table.contains]
        cases hget : c.operations.get? op with
        | none => simp [isUnbegun, hget] at hunbegun
        | some o => rfl
      simp only [losses, AbortsUnbegun, List.countP_eq_zero, not_exists]
      exact ⟨fun hall op hunbegun => hall op (hkey op hunbegun) hunbegun, fun hall op _ => hall op⟩
  | start | begin | reply | giveUp | deliver | retire | panic | close | closeAll =>
      simp [losses, AbortsUnbegun]

/-- Nothing is lost exactly if no operation is aborted before its task has run. -/
theorem lost_eq_zero_iff (run : List Occurrence) : ∀ c : Coordinator,
    c.lost run = 0 ↔
      ∀ before o after, run = before ++ o :: after → ¬(c.follow before).AbortsUnbegun o := by
  induction run with
  | nil => simp [lost]
  | cons first run ih =>
      intro c
      rw [lost, Nat.add_eq_zero_iff, losses_eq_zero_iff, ih]
      constructor
      · rintro ⟨hfirst, hrest⟩ before o after hsplit
        -- the run is split at its first occurrence or further on
        cases before with
        | nil =>
            cases hsplit
            exact hfirst
        | cons o' before =>
            cases hsplit
            exact hrest before o after rfl
      · intro hall
        refine ⟨hall [] first run rfl, fun before o after hsplit => ?_⟩
        exact hall (first :: before) o after (by rw [hsplit, List.cons_append])

/-- **The count of active operations.**  After any run it is the number of operations whose task has
not ended, together with those that were aborted before their tasks had run.  So it is exact as long
as no operation has been aborted so early, and no longer; and what has been lost stays in the count
whatever happens later. -/
theorem active_of_run (run : List Occurrence) :
    (empty.follow run).active = (empty.follow run).operations.size + empty.lost run ∧
    ((empty.follow run).active = (empty.follow run).operations.size ↔
      ∀ before o after, run = before ++ o :: after → ¬(empty.follow before).AbortsUnbegun o) ∧
    ∀ later, empty.lost run ≤ (empty.follow (run ++ later)).active := by
  have hactive : ∀ run : List Occurrence,
      (empty.follow run).active = (empty.follow run).operations.size + empty.lost run := by
    intro run
    have hbalanced := (balanced_empty.follow run).active
    rwa [Nat.zero_add] at hbalanced
  refine ⟨hactive run, ?_, fun later => ?_⟩
  · rw [hactive run, ← lost_eq_zero_iff]
    omega
  · rw [hactive, lost_append]
    omega

/-- The one operation is aborted at once: no task is left, and the count is one. -/
theorem active_after_early_abort :
    ¬∀ run : List Occurrence, (empty.follow run).active = (empty.follow run).operations.size :=
  fun hexact => absurd (hexact [.start (.listen "127.0.0.1" 0) 1, .abortAll]) (by decide)

end Coordinator
end ScriptHost.Network
