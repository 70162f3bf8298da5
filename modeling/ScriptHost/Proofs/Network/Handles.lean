import ScriptHost.Network.Handles
import ScriptHost.Proofs.Data.Table

/-!
# Open handles

What each operation on the handles does to the table, to the signals and to the number of open
handles.
-/

namespace ScriptHost.Network.Handles

variable {h : Handles} {kind : Kind} {id : Nat}

theorem isOpen_iff (h : Handles) (kind : Kind) (id : Nat) :
    h.isOpen kind id = true ↔ h.table.get? id = some kind := by
  rw [isOpen, decide_eq_true_eq]

theorem isSignalled_signal (h : Handles) (id j : Nat) :
    (h.signal id).isSignalled j = true ↔ j = id ∨ h.isSignalled j = true := by
  simp [isSignalled, signal]

/-! ## Detaching -/

theorem detach_of_open (hopen : h.isOpen kind id = true) :
    h.detach kind id = (true, { h with table := h.table.erase id }) := if_pos hopen

theorem detach_of_not_open (hopen : h.isOpen kind id = false) : h.detach kind id = (false, h) :=
  if_neg (by simp [hopen])

theorem detach_fst (h : Handles) (kind : Kind) (id : Nat) :
    (h.detach kind id).1 = h.isOpen kind id := by
  cases hopen : h.isOpen kind id with
  | true => rw [detach_of_open hopen]
  | false => rw [detach_of_not_open hopen]

@[simp] theorem next_detach (h : Handles) (kind : Kind) (id : Nat) :
    (h.detach kind id).2.next = h.next := by
  rw [detach]
  split <;> rfl

@[simp] theorem signalled_detach (h : Handles) (kind : Kind) (id : Nat) :
    (h.detach kind id).2.signalled = h.signalled := by
  rw [detach]
  split <;> rfl

theorem get?_detach (h : Handles) (kind : Kind) (id j : Nat) :
    (h.detach kind id).2.table.get? j =
      if h.isOpen kind id = true ∧ j = id then none else h.table.get? j := by
  cases hopen : h.isOpen kind id with
  | true => simp [detach_of_open hopen]
  | false => simp [detach_of_not_open hopen]

theorem isOpen_detach (h : Handles) (kind other : Kind) (id j : Nat) :
    (h.detach kind id).2.isOpen other j = true ↔
      h.isOpen other j = true ∧ ¬(h.isOpen kind id = true ∧ j = id) := by
  rw [isOpen_iff, isOpen_iff, get?_detach]
  split <;> simp_all

theorem close_of_open (hopen : h.isOpen kind id = true) :
    h.close kind id = (true, Handles.signal { h with table := h.table.erase id } id) := by
  rw [close, detach_of_open hopen]
  rfl

theorem close_of_not_open (hopen : h.isOpen kind id = false) : h.close kind id = (false, h) := by
  rw [close, detach_of_not_open hopen]
  rfl

/-! ## Counting -/

theorem count_eq (h : Handles) (kind : Kind) : h.count kind = h.table.values.countP (· = kind) := by
  rw [count, List.countP_eq_length_filter]

/-- Every open handle is a connection or a listener. -/
theorem size_eq (h : Handles) : h.table.size = h.connections + h.listeners := by
  rw [connections, listeners, count_eq, count_eq, count_eq, Table.size, ← List.length_map (·.2),
    ← Table.values]
  induction h.table.values with
  | nil => rfl
  | cons kind kinds ih =>
      rw [List.countP_cons, List.countP_cons, List.countP_cons, List.length_cons, ih]
      cases kind <;> simp <;> omega

end ScriptHost.Network.Handles
