import ScriptHost.Ready.Closures
import ScriptHost.Proofs.Data.Table

/-!
# Which closures are registered

Of a registered closure, only whether it is used again and again matters to everything but the guest.
`Closures.flag?` is this view of the table, with one equation for each operation.
-/

namespace ScriptHost.Ready.Closures

variable {α : Type}

/-- Whether the closure of a target is used again and again; nothing if there is no closure. -/
def flag? (t : Closures α) (target : Target) : Option Bool :=
  (t.table.get? target).map (·.repeating)

theorem contains_eq (t : Closures α) (target : Target) :
    t.contains target = (t.flag? target).isSome := by
  rw [contains, Table.contains, flag?, Option.isSome_map]

theorem contains_iff (t : Closures α) (target : Target) :
    t.contains target = true ↔ ∃ repeating, t.flag? target = some repeating := by
  rw [contains_eq, Option.isSome_iff_exists]

theorem size_eq_zero_iff (t : Closures α) : t.size = 0 ↔ ∀ target, t.flag? target = none := by
  rw [size, Table.size_eq_zero_iff]
  simp only [flag?, Option.map_eq_none_iff]

theorem flag?_insertTimer (t : Closures α) (id : Nat) (value : α) (repeating : Bool)
    (target : Target) :
    (t.insertTimer id value repeating).flag? target =
      if target = .timer id then some repeating else t.flag? target := by
  rw [flag?, insertTimer, Table.get?_insert]
  split <;> rfl

theorem flag?_insertCompletion (t : Closures α) (value : α) (target : Target) :
    (t.insertCompletion value).2.flag? target =
      if target = .completion t.nextCompletion then some false else t.flag? target := by
  rw [flag?, insertCompletion, Table.get?_insert]
  split <;> rfl

@[simp] theorem nextCompletion_resolve (t : Closures α) (target : Target) :
    (t.resolve target).2.nextCompletion = t.nextCompletion := by
  rw [resolve]
  split
  · rfl
  · split <;> rfl

/-- Looking a closure up takes it out if it is used once. -/
theorem flag?_resolve (t : Closures α) (target other : Target) :
    (t.resolve target).2.flag? other =
      if other = target ∧ t.flag? target = some false then none else t.flag? other := by
  rw [resolve]
  split
  · rename_i hget
    have hnone : t.flag? target = none := by rw [flag?, hget]; rfl
    rw [if_neg (by simp [hnone])]
  · rename_i c hget
    have hsome : t.flag? target = some c.repeating := by rw [flag?, hget]; rfl
    rw [hsome]
    cases hrep : c.repeating with
    | true => rw [if_pos rfl, if_neg (by simp)]
    | false =>
        rw [if_neg (by simp), flag?, Table.get?_erase]
        by_cases hother : other = target
        · rw [if_pos hother, if_pos ⟨hother, rfl⟩]
          rfl
        · rw [if_neg hother, if_neg (fun h => hother h.1), flag?]

@[simp] theorem nextCompletion_release (t : Closures α) (target : Target) :
    (t.release target).2.nextCompletion = t.nextCompletion := by
  rw [release]
  split <;> rfl

theorem flag?_release (t : Closures α) (target other : Target) :
    (t.release target).2.flag? other = if other = target then none else t.flag? other := by
  rw [release]
  split
  · rename_i hget
    by_cases hother : other = target
    · rw [if_pos hother, hother, flag?, hget]
      rfl
    · rw [if_neg hother]
  · rw [flag?, Table.get?_erase, flag?]
    split <;> rfl

end ScriptHost.Ready.Closures
