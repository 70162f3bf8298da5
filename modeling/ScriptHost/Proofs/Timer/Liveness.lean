import ScriptHost.Timer.Clock

/-!
# Which timers are live

Everything that later modules need of the set of live timers is whether a timer is in it and whether
it repeats.  `Timers.kind?` is this view, with one equation for each operation.  Due times and the
order of armings are left out of it: no statement about who may fire depends on them.

Numbers are given out in ascending order, so a number that has been given out is never given to
another timer (`Numbered`).
-/

namespace ScriptHost.Timers

open Ready (Queue)

/-- Whether a live timer repeats; nothing for a timer that is not live. -/
def kind? (t : Timers) (id : Nat) : Option Bool := (t.live.get? id).map (·.repeating)

theorem isLive_eq (t : Timers) (id : Nat) : t.isLive id = (t.kind? id).isSome := by
  rw [isLive, Table.contains, kind?, Option.isSome_map]

theorem kind?_eq_none_iff (t : Timers) (id : Nat) : t.kind? id = none ↔ t.isLive id = false := by
  rw [isLive_eq]
  cases t.kind? id <;> simp

/-- Live timers have numbers that have been given out. -/
def Numbered (t : Timers) : Prop := ∀ id, t.isLive id = true → id < t.nextId

theorem kind?_empty (id : Nat) : empty.kind? id = none := rfl

theorem numbered_empty : empty.Numbered := by
  intro id h
  rw [isLive_eq, kind?_empty] at h
  cases h

/-- Only the view and the next number matter. -/
theorem Numbered.congr {t u : Timers} (h : t.Numbered) (hnext : t.nextId ≤ u.nextId)
    (hkind : ∀ id, u.isLive id = true → t.isLive id = true) : u.Numbered :=
  fun id hlive => Nat.lt_of_lt_of_le (h id (hkind id hlive)) hnext

/-! ## Creating -/

/-- What creating a timer does: it takes the next number and is live under it. -/
theorem create_eq_ok {t u : Timers} {delay : Int} {repeating : Bool} {id : Nat}
    (h : t.create delay repeating = .ok (id, u)) :
    id = t.nextId ∧ u.nextId = t.nextId + 1 ∧
      ∀ j, u.kind? j = if j = id then some repeating else t.kind? j := by
  rw [create] at h
  split at h
  · cases h
  · cases h
    refine ⟨rfl, rfl, ?_⟩
    intro j
    rw [kind?, Table.get?_insert]
    split <;> rfl

theorem Numbered.create {t u : Timers} {delay : Int} {repeating : Bool} {id : Nat}
    (h : t.Numbered) (hcreate : t.create delay repeating = .ok (id, u)) : u.Numbered := by
  obtain ⟨rfl, hnext, hkind⟩ := create_eq_ok hcreate
  intro j hlive
  rw [isLive_eq, hkind] at hlive
  by_cases hj : j = t.nextId
  · omega
  · rw [if_neg hj, ← isLive_eq] at hlive
    have := h j hlive
    omega

/-! ## Firing -/

@[simp] theorem nextId_fire (t : Timers) (q : Queue) (id : Nat) :
    (t.fire q id).1.nextId = t.nextId := by
  rw [fire]
  split
  · rfl
  · dsimp only
    split <;> rfl

/-- A wake-up ends a timer that fires once and no other. -/
theorem kind?_fire (t : Timers) (q : Queue) (id j : Nat) :
    (t.fire q id).1.kind? j = if j = id ∧ t.kind? id = some false then none else t.kind? j := by
  rw [fire]
  split
  · rename_i hget
    have hnone : t.kind? id = none := by rw [kind?, hget]; rfl
    rw [if_neg (by simp [hnone])]
  · rename_i timer hget
    have hsome : t.kind? id = some timer.repeating := by rw [kind?, hget]; rfl
    rw [hsome]
    cases hrep : timer.repeating with
    | true => rw [if_pos rfl, if_neg (by simp)]
    | false =>
        rw [if_neg (by simp), kind?, Table.get?_erase]
        by_cases hj : j = id
        · rw [if_pos hj, if_pos ⟨hj, rfl⟩]
          rfl
        · rw [if_neg hj, if_neg (fun h => hj h.1), kind?]

/-- The wake-up of a live timer offers its firing to the queue; any other does nothing. -/
theorem queue_fire (t : Timers) (q : Queue) (id : Nat) :
    (t.fire q id).2 = if t.isLive id then (q.enqueue (.firing id)).2 else q := by
  rw [fire, isLive, Table.contains]
  cases hget : t.live.get? id with
  | none => rfl
  | some timer => rfl

theorem Numbered.fire {t : Timers} (h : t.Numbered) (q : Queue) (id : Nat) :
    (t.fire q id).1.Numbered := by
  refine h.congr (Nat.le_of_eq (nextId_fire t q id).symm) ?_
  intro j hlive
  rw [isLive_eq, kind?_fire] at hlive
  split at hlive
  · cases hlive
  · rwa [isLive_eq]

@[simp] theorem nextId_rearm (t : Timers) (id : Nat) : (t.rearm id).nextId = t.nextId := by
  rw [rearm]
  split <;> rfl

/-- Arming again changes neither who is live nor who repeats. -/
@[simp] theorem kind?_rearm (t : Timers) (id j : Nat) : (t.rearm id).kind? j = t.kind? j := by
  rw [rearm]
  split
  · rfl
  · rw [kind?, Table.get?_modify, kind?]
    split
    · rw [Option.map_map]
      rfl
    · rfl

theorem Numbered.rearm {t : Timers} (h : t.Numbered) (id : Nat) : (t.rearm id).Numbered := by
  refine h.congr (Nat.le_of_eq (nextId_rearm t id).symm) ?_
  intro j hlive
  rwa [isLive_eq, kind?_rearm, ← isLive_eq] at hlive

/-! ## Firing on time

A timer that fires is armed again in the same step. -/

@[simp] theorem nextId_fireAt (t : Timers) (q : Queue) (id time : Nat) :
    (t.fireAt q id time).1.nextId = t.nextId := by
  rw [fireAt, nextId_rearm, nextId_fire]

theorem kind?_fireAt (t : Timers) (q : Queue) (id time j : Nat) :
    (t.fireAt q id time).1.kind? j =
      if j = id ∧ t.kind? id = some false then none else t.kind? j := by
  rw [fireAt, kind?_rearm, kind?_fire]
  rfl

theorem queue_fireAt (t : Timers) (q : Queue) (id time : Nat) :
    (t.fireAt q id time).2 = if t.isLive id then (q.enqueue (.firing id)).2 else q := by
  rw [fireAt]
  exact queue_fire { t with now := time } q id

/-! ## Ending -/

theorem kind?_remove (t : Timers) (id j : Nat) :
    (t.remove id).2.kind? j = if j = id then none else t.kind? j := by
  rw [kind?, remove, Table.get?_erase, kind?]
  split <;> rfl

theorem Numbered.remove {t : Timers} (h : t.Numbered) (id : Nat) : (t.remove id).2.Numbered := by
  refine h.congr (Nat.le_refl _) ?_
  intro j hlive
  rw [isLive_eq, kind?_remove] at hlive
  split at hlive
  · cases hlive
  · rwa [isLive_eq]

theorem mem_keys_iff (t : Timers) (id : Nat) : id ∈ t.live.keys ↔ t.isLive id = true := by
  rw [isLive, Table.contains_iff]

end ScriptHost.Timers
