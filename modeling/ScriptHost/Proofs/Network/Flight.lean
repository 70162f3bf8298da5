import ScriptHost.Network.Coordinator
import ScriptHost.Proofs.Data.Table
import ScriptHost.Proofs.Ready.Index

/-!
# Operations in flight

An operation is in flight from its start until its result is queued.  Operations are counted by the
completion that they deliver (`Coordinator.inFlight`), and each step of an operation has one equation
for this count.  Only a start and a delivery change it.
-/

namespace ScriptHost.Network

open Ready (Queue)

/-- Whether the result of an operation has been queued. -/
def Stage.isQueued : Stage → Bool
  | .queued => true
  | _ => false

/-- Whether an operation is still to queue its result as a given completion. -/
def Operation.isFor (id : Nat) (o : Operation) : Bool := o.completion = id && !o.stage.isQueued

namespace Coordinator

/-- The number of operations that are still to queue a completion. -/
def inFlight (c : Coordinator) (id : Nat) : Nat :=
  c.operations.values.countP (Operation.isFor id)

/-- Operations have numbers that have been given out. -/
def Numbered (c : Coordinator) : Prop :=
  ∀ op o, c.operations.get? op = some o → op < c.nextOperation

theorem inFlight_pos_iff (c : Coordinator) (id : Nat) :
    0 < c.inFlight id ↔ ∃ op o, c.operations.get? op = some o ∧ o.completion = id ∧
      o.stage.isQueued = false := by
  rw [inFlight, Table.countP_values_pos_iff]
  simp only [Operation.isFor, Bool.and_eq_true, decide_eq_true_eq, Bool.not_eq_true']

theorem numbered_empty : empty.Numbered := by
  intro op o h
  cases h

theorem Numbered.get?_next {c : Coordinator} (h : c.Numbered) :
    c.operations.get? c.nextOperation = none := by
  cases hget : c.operations.get? c.nextOperation with
  | none => rfl
  | some o => exact absurd (h _ o hget) (Nat.lt_irrefl _)

/-! ## Starting -/

theorem Numbered.inFlight_start {c : Coordinator} (h : c.Numbered) (request : Request)
    (completion id : Nat) :
    (c.start request completion).2.inFlight id =
      c.inFlight id + if completion = id then 1 else 0 := by
  rw [inFlight, start, Table.countP_values_insert _ _ _ h.get?_next, inFlight]
  simp [Operation.isFor, Stage.isQueued]

theorem Numbered.start {c : Coordinator} (h : c.Numbered) (request : Request) (completion : Nat) :
    (c.start request completion).2.Numbered := by
  intro op o hget
  show op < c.nextOperation + 1
  rw [Coordinator.start, Table.get?_insert] at hget
  split at hget
  · omega
  · exact Nat.lt_succ_of_lt (h op o hget)

/-! ## Going on -/

/-- Going from one stage to another before the result is queued. -/
theorem inFlight_setStage (c : Coordinator) {op : Nat} {o : Operation} {stage : Stage}
    (hget : c.operations.get? op = some o) (hbefore : o.stage.isQueued = false)
    (hafter : stage.isQueued = false) (id : Nat) :
    (c.setStage op stage).inFlight id = c.inFlight id := by
  have h := c.operations.countP_values_modify (Operation.isFor id)
    (fun o => { o with stage }) hget
  simp only [Operation.isFor, hbefore, hafter] at h
  rw [inFlight, setStage, inFlight]
  exact Nat.add_right_cancel h

theorem Numbered.setStage {c : Coordinator} (h : c.Numbered) (op : Nat) (stage : Stage) :
    (c.setStage op stage).Numbered := by
  intro j o hget
  rw [Coordinator.setStage, Table.get?_modify] at hget
  split at hget
  · obtain ⟨o', hget', -⟩ := Option.map_eq_some_iff.1 hget
    exact h j o' hget'
  · exact h j o hget

theorem inFlight_begin (c : Coordinator) (op id : Nat) :
    (c.begin op).inFlight id = c.inFlight id := by
  unfold begin
  split
  · rename_i hget
    split <;> exact c.inFlight_setStage hget rfl rfl id
  · rfl

theorem Numbered.begin {c : Coordinator} (h : c.Numbered) (op : Nat) : (c.begin op).Numbered := by
  unfold Coordinator.begin
  split
  · split <;> exact h.setStage op _
  · exact h

theorem inFlight_reply (c : Coordinator) (op : Nat) (r : Reply) (id : Nat) :
    (c.reply op r).inFlight id = c.inFlight id := by
  unfold reply
  split
  · rename_i hget
    exact inFlight_setStage { c with handles := _ } hget rfl rfl id
  · rfl

theorem Numbered.reply {c : Coordinator} (h : c.Numbered) (op : Nat) (r : Reply) :
    (c.reply op r).Numbered := by
  unfold Coordinator.reply
  split
  · exact Numbered.setStage (c := { c with handles := _ }) h op _
  · exact h

theorem inFlight_giveUp (c : Coordinator) (op id : Nat) :
    (c.giveUp op).inFlight id = c.inFlight id := by
  unfold giveUp
  split
  · rename_i hget
    split
    · split
      · exact c.inFlight_setStage hget rfl rfl id
      · rfl
    · rfl
  · rfl

theorem Numbered.giveUp {c : Coordinator} (h : c.Numbered) (op : Nat) : (c.giveUp op).Numbered := by
  unfold Coordinator.giveUp
  split
  · split
    · split
      · exact h.setStage op _
      · exact h
    · exact h
  · exact h

/-! ## Ending -/

/-- What a delivery does: nothing, or one operation for some completion is in flight no more and an
entry for this completion is in the queue. -/
theorem deliver_cases (c : Coordinator) (q : Queue) (op : Nat) :
    c.deliver q op = (c, q) ∨
      ∃ completion outcome, (c.deliver q op).2 = (q.enqueue (.completion completion outcome)).2 ∧
        ∀ id, (c.deliver q op).1.inFlight id + (if completion = id then 1 else 0) =
          c.inFlight id := by
  unfold deliver
  split
  · rename_i completion request outcome hget
    refine .inr ⟨completion, outcome, rfl, ?_⟩
    intro id
    have h := c.operations.countP_values_modify (Operation.isFor id)
      (fun o => { o with stage := .queued }) hget
    simp only [Operation.isFor, Stage.isQueued, Bool.not_false, Bool.and_true, Bool.not_true,
      Bool.and_false, Bool.false_eq_true, if_false, Nat.add_zero, decide_eq_true_eq] at h
    exact h
  · exact .inl rfl

theorem inFlight_deliver_le (c : Coordinator) (q : Queue) (op id : Nat) :
    (c.deliver q op).1.inFlight id ≤ c.inFlight id := by
  rcases c.deliver_cases q op with hsame | ⟨completion, outcome, -, hcount⟩
  · exact Nat.le_of_eq (congrArg (fun after => after.1.inFlight id) hsame)
  · have hid := hcount id
    omega

theorem Numbered.deliver {c : Coordinator} (h : c.Numbered) (q : Queue) (op : Nat) :
    (c.deliver q op).1.Numbered := by
  unfold Coordinator.deliver
  split
  · exact h.setStage op _
  · exact h

/-- An operation that ends after its delivery is not in flight. -/
theorem inFlight_retire (c : Coordinator) (op id : Nat) :
    (c.retire op).inFlight id = c.inFlight id := by
  unfold retire
  split
  · rename_i hget
    have h := c.operations.countP_values_erase (Operation.isFor id) hget
    simp only [Operation.isFor, Stage.isQueued, Bool.not_true, Bool.and_false,
      Bool.false_eq_true, if_false, Nat.add_zero] at h
    exact h
  · rfl

theorem Numbered.retire {c : Coordinator} (h : c.Numbered) (op : Nat) :
    (c.retire op).Numbered := by
  unfold Coordinator.retire
  split
  · intro j o hget
    rw [Table.get?_erase] at hget
    split at hget
    · cases hget
    · exact h j o hget
  · exact h

end Coordinator
end ScriptHost.Network
