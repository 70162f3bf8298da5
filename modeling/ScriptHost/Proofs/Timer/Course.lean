import ScriptHost.Proofs.Timer.Tasks

/-!
# The histories of a timer

What has happened to a timer is read off the events of a run: the creations that have returned its
number, the wake-ups of its task, and whether it was taken out of the live set.  `Course` says which
histories there are, and what the state is like after each: whether the timer is live, how many entries it
has in the queue, and what its task does.

A timer that fires once has no entry in the queue as long as it is live.  So its firing is accepted, and
then its task has ended and never asks for it again.
-/

namespace ScriptHost.Timers

open Ready (Queue)

namespace Tended

/-! ## What has happened to a timer -/

/-- The creation of a timer: whether it repeats. -/
def creation? (id : Nat) : TaskEvent → Option Bool
  | .created _ j repeating => if j = id then some repeating else none
  | _ => none

/-- The wake-up of a timer. -/
def wakeup? (id : Nat) : TaskEvent → Option Wakeup
  | .woken j wakeup => if j = id then some wakeup else none
  | _ => none

theorem creation?_of_ne {id j : Nat} (hne : id ≠ j) (thread : Nat) (repeating : Bool) :
    creation? id (.created thread j repeating) = none := if_neg (Ne.symm hne)

theorem wakeup?_of_ne {id j : Nat} (hne : id ≠ j) (wakeup : Wakeup) :
    wakeup? id (.woken j wakeup) = none := if_neg (Ne.symm hne)

/-- Whether a cancellation takes a live timer out. -/
def takes (id : Nat) : TaskEvent → Bool
  | .other (.removed _ j found) => j = id && found
  | .other (.removedAll _ taken) => taken.contains id
  | _ => false

/-- What has happened to a timer. -/
structure Past where
  creations : List Bool
  wakeups : List Wakeup
  taken : Bool

def pastOf (id : Nat) (events : List TaskEvent) : Past :=
  ⟨events.filterMap (creation? id), events.filterMap (wakeup? id), events.any (takes id)⟩

theorem pastOf_concat (id : Nat) (events : List TaskEvent) (e : TaskEvent) :
    pastOf id (events ++ [e]) =
      ⟨(pastOf id events).creations ++ (creation? id e).toList,
        (pastOf id events).wakeups ++ (wakeup? id e).toList, (pastOf id events).taken || takes id e⟩ := by
  have hsingle : ∀ {α : Type} (f : TaskEvent → Option α), [e].filterMap f = (f e).toList := by
    intro α f
    cases h : f e <;> simp [h]
  simp only [pastOf, List.filterMap_append, List.any_append, List.any_cons, List.any_nil, Bool.or_false,
    hsingle]

/-- An event that is none of a timer's. -/
theorem pastOf_concat_of_silent {id : Nat} {e : TaskEvent} (hcreation : creation? id e = none)
    (hwakeup : wakeup? id e = none) (htakes : takes id e = false) (events : List TaskEvent) :
    pastOf id (events ++ [e]) = pastOf id events := by
  rw [pastOf_concat, hcreation, hwakeup, htakes, Bool.or_false]
  simp

theorem pastOf_created (thread id : Nat) (repeating : Bool) (events : List TaskEvent) :
    pastOf id (events ++ [.created thread id repeating]) =
      ⟨(pastOf id events).creations ++ [repeating], (pastOf id events).wakeups,
        (pastOf id events).taken⟩ := by
  rw [pastOf_concat]
  simp [creation?, wakeup?, takes]

theorem pastOf_woken (id : Nat) (wakeup : Wakeup) (events : List TaskEvent) :
    pastOf id (events ++ [.woken id wakeup]) =
      ⟨(pastOf id events).creations, (pastOf id events).wakeups ++ [wakeup],
        (pastOf id events).taken⟩ := by
  rw [pastOf_concat]
  simp [creation?, wakeup?, takes]

/-- A task that is still going to wake up for a timer. -/
structure Attends (task : Task) (repeating : Bool) : Prop where
  repeats : task.timer.repeating = repeating
  goes_on : task.stage ≠ .ended

/-- The histories of a timer: what it is in the live set, its task, the number of its entries in the
queue, and what has happened to it. -/
inductive Course : Option Bool → Option Task → Nat → Past → Prop where
  | unborn (task : Option Task) : Course none task 0 ⟨[], [], false⟩
  | live {repeating : Bool} {task : Task} {queued : Nat} {wakeups : List Wakeup}
      (hattends : Attends task repeating)
      (honce : repeating = false → queued = 0 ∧ wakeups = []) :
      Course (some repeating) (some task) queued ⟨[repeating], wakeups, false⟩
  | fired {task : Task} (hended : task.stage = .ended) (queued : Nat) :
      Course none (some task) queued ⟨[false], [.accepted], false⟩
  | cancelled {repeating : Bool} (task : Option Task) (queued : Nat) {wakeups : List Wakeup}
      (honce : repeating = false → ∀ w ∈ wakeups, w = .missing) :
      Course none task queued ⟨[repeating], wakeups, true⟩

namespace Course

variable {kind : Option Bool} {task : Option Task} {queued : Nat} {past : Past}

/-- Entries leave the queue. -/
theorem drop (h : Course kind task queued past) : Course kind task 0 past := by
  cases h with
  | unborn task => exact .unborn task
  | live hattends honce => exact .live hattends fun hrep => ⟨rfl, (honce hrep).2⟩
  | fired hended queued => exact .fired hended 0
  | cancelled task queued honce => exact .cancelled task 0 honce

theorem discard {q : Queue} {id : Nat} (h : Course kind task (q.count (.timer id)) past)
    (hindexed : q.Indexed) (other : Nat) :
    Course kind task ((q.discard other).2.count (.timer id)) past := by
  rw [hindexed.count_discard]
  split
  · exact h.drop
  · exact h

/-- A task that has not ended goes on. -/
theorem proceed {old new : Task} (h : Course kind (some old) queued past) (hold : old.stage ≠ .ended)
    (hnew : Attends new old.timer.repeating) : Course kind (some new) queued past := by
  cases h with
  | unborn task => exact .unborn (some new)
  | live hattends honce => exact .live (hattends.repeats ▸ hnew) honce
  | fired hended queued => exact absurd hended hold
  | cancelled task queued honce => exact .cancelled (some new) queued honce

/-- A timer that has not been created may be given a task. -/
theorem prepare (h : Course kind task queued past) (hnew : past.creations = []) (new : Option Task) :
    Course kind new queued past := by
  cases h with
  | unborn task => exact .unborn new
  | live | fired | cancelled => cases hnew

/-- A timer that has not been created becomes live, with its task at hand. -/
theorem create {task : Task} {repeating : Bool} (h : Course kind (some task) queued past)
    (hnew : past.creations = []) (hattends : Attends task repeating) :
    Course (some repeating) (some task) queued ⟨past.creations ++ [repeating], past.wakeups, past.taken⟩ := by
  cases h with
  | unborn task => exact .live hattends fun _ => ⟨rfl, rfl⟩
  | live | fired | cancelled => cases hnew

/-- A timer is taken out of the live set, if it is in it. -/
theorem take (h : Course kind task queued past) :
    Course none task queued ⟨past.creations, past.wakeups, past.taken || kind.isSome⟩ := by
  cases h with
  | unborn task => exact .unborn task
  | live hattends honce =>
      exact .cancelled _ _ fun hrep w hmem => by
        rw [(honce hrep).2] at hmem
        cases hmem
  | fired hended queued => exact .fired hended queued
  | cancelled task queued honce => exact .cancelled task queued honce

/-- The task wakes up, and the timer has been created.  If it is live, its firing is offered. -/
theorem wake {task : Task} (h : Course kind (some task) queued past) (hasleep : task.stage ≠ .ended)
    (hborn : past.creations ≠ []) (queued' : Nat) :
    Course (if kind = some false then none else kind)
      (some { task with stage := if kind.isSome && task.timer.repeating then .fired else .ended })
      queued' ⟨past.creations, past.wakeups ++ [Wakeup.of kind queued], past.taken⟩ := by
  cases h with
  | unborn task => exact absurd rfl hborn
  | @live repeating task queued wakeups hattends honce =>
      cases repeating with
      | true =>
          refine .live ⟨hattends.repeats, ?_⟩ nofun
          simp [hattends.repeats]
      | false =>
          -- it has no entry in the queue, so the firing is accepted
          obtain ⟨rfl, rfl⟩ := honce rfl
          refine .fired ?_ queued'
          simp [hattends.repeats]
  | fired hended queued => exact absurd hended hasleep
  | cancelled task queued honce =>
      refine .cancelled _ queued' fun hrep w hmem => ?_
      rw [List.mem_append, List.mem_singleton] at hmem
      exact hmem.elim (honce hrep w) id

/-- Nothing happens to the timer. -/
theorem untaken (h : Course kind task queued past) :
    Course kind task queued ⟨past.creations, past.wakeups, past.taken || false⟩ := by
  rw [Bool.or_false]
  exact h

/-- Steps that do not concern tasks: what they do to a timer. -/
theorem other {s t : Shared} {e : Event} {id : Nat} (hindexed : s.queue.Indexed)
    (h : Course (s.timers.kind? id) task (s.queue.count (.timer id)) past) (hstep : Shared.Step s e t)
    (hcreated : ∀ j, e ≠ .created j) (hwoken : ∀ j accepted, e ≠ .woken j accepted) :
    Course (t.timers.kind? id) task (t.queue.count (.timer id))
      ⟨past.creations, past.wakeups, past.taken || takes id (.other e)⟩ := by
  cases hstep with
  | create hcreate => exact absurd rfl (hcreated _)
  | wake => exact absurd rfl (hwoken _ _)
  | rearm other =>
      rw [kind?_rearm]
      exact h.untaken
  | elapse millis => exact h.untaken
  | complete other outcome =>
      rw [Queue.count_enqueue_completion, if_neg nofun, Nat.add_zero]
      exact h.untaken
  | drain => exact h.drop.untaken
  | clear => exact h.drop.untaken
  | @remove thread other hfree =>
      show Course ((s.timers.remove other).2.kind? id) task _ _
      rw [kind?_remove]
      by_cases hother : id = other
      · subst hother
        have htakes : takes id (.other (.removed thread id (s.timers.remove id).1)) =
            (s.timers.kind? id).isSome := by
          rw [← isLive_eq]
          simp [takes, remove]
        rw [if_pos rfl, htakes]
        exact h.take
      · have htakes : takes id (.other (.removed thread other (s.timers.remove other).1)) = false := by
          simp [takes, Ne.symm hother]
        rw [if_neg hother, htakes]
        exact h.untaken
  | discard herrand => exact (h.discard hindexed _).untaken
  | removeAll hfree =>
      have htaken := h.take
      have hmem : s.timers.live.keys.contains id = (s.timers.kind? id).isSome := by
        rw [← isLive_eq, Bool.eq_iff_iff, List.contains_iff_mem, mem_keys_iff]
      rw [← hmem] at htaken
      exact htaken
  | discardOne herrand hid => exact (h.discard hindexed _).untaken
  | finishAll herrand => exact h.untaken

/-! ## What a history comes to -/

/-- What the history of a timer that fires once comes to. -/
theorem one_shot (h : Course kind task queued past) (hcreated : false ∈ past.creations) :
    (kind.isSome = true ∧ past.wakeups = [] ∧ past.taken = false ∧
      ∃ attending, task = some attending ∧ attending.stage ≠ .ended) ∨
    (kind = none ∧ past.wakeups = [.accepted] ∧ past.taken = false) ∨
    (kind = none ∧ (∀ w ∈ past.wakeups, w = .missing) ∧ past.taken = true) := by
  cases h with
  | unborn task => cases hcreated
  | live hattends honce =>
      have hrep := List.mem_singleton.1 hcreated
      exact .inl ⟨rfl, (honce hrep.symm).2, rfl, _, rfl, hattends.goes_on⟩
  | fired hended queued => exact .inr (.inl ⟨rfl, rfl, rfl⟩)
  | cancelled task queued honce =>
      have hrep := List.mem_singleton.1 hcreated
      exact .inr (.inr ⟨rfl, honce hrep.symm, rfl⟩)

/-- A task that does not find its timer is the task of a timer that was cancelled. -/
theorem taken_of_gone {task : Task} (h : Course kind (some task) queued past) (hborn : past.creations ≠ []) (hgone : kind = none)
    (hasleep : task.stage ≠ .ended) : past.taken = true := by
  cases h with
  | unborn => exact absurd rfl hborn
  | live => cases hgone
  | fired hended => exact absurd hended hasleep
  | cancelled => rfl

end Course
end Tended
end ScriptHost.Timers
