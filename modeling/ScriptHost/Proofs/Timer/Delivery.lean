import ScriptHost.Proofs.Timer.Cancellation
import ScriptHost.Proofs.Timer.Course

/-!
# Timers that fire once

Every timer of a run has one of the histories of `Course`, whatever the order in which threads and tasks
take their steps (`Sound.of_run`).  For a timer that fires once these are three: it is still live, it has
fired, or it was cancelled in time.

The one thing that could go wrong is a task that looks for its timer too early.  A task that wakes up needs
the lock, and from the spawning of the task to the moment at which the timer is live the creating thread
holds it.  So while the lock is free, all timers with a task have been created (`Orderly.born`).
-/

namespace ScriptHost.Timers

open Ready (Queue)

namespace Tended

/-! ## Numbers, creations and tasks -/

/-- Only creations take numbers. -/
theorem nextId_of_step {s t : Shared} {e : Event} (hstep : Shared.Step s e t)
    (hcreated : ∀ j, e ≠ .created j) : t.timers.nextId = s.timers.nextId := by
  cases hstep with
  | create hcreate => exact absurd rfl (hcreated _)
  | wake id => exact nextId_fire _ _ _
  | rearm id => exact nextId_rearm _ _
  | elapse | complete | drain | clear | remove | discard | removeAll | discardOne | finishAll => rfl

/-- Numbers are given out once, and only timers under creation have tasks before they are live. -/
structure Orderly (events : List TaskEvent) (s : Tended) : Prop where
  fresh : ∀ id, s.timers.nextId ≤ id → (pastOf id events).creations = []
  promised : ∀ thread c, s.creation thread = some c →
    c.id < s.timers.nextId ∧ (pastOf c.id events).creations = []
  distinct : ∀ thread thread' c c', s.creation thread = some c → s.creation thread' = some c' →
    c.id = c'.id → thread = thread'
  attended : ∀ thread c, s.creation thread = some c → c.spawned = true →
    ∃ task, s.task c.id = some task ∧ Attends task c.repeating
  unborn : ∀ id task, (pastOf id events).creations = [] → s.task id = some task →
    ∃ thread c, s.creation thread = some c ∧ c.id = id ∧ c.spawned = true

theorem creation_setCreation (s : Tended) (thread t : Nat) (creation : Option Creation) :
    (s.setCreation thread creation).creation t = if t = thread then creation else s.creation t := rfl

theorem creation_setCreation_eq_some {s : Tended} {thread t : Nat} {new : Option Creation} {c : Creation}
    (h : (s.setCreation thread new).creation t = some c) :
    (t = thread ∧ new = some c) ∨ (t ≠ thread ∧ s.creation t = some c) := by
  rw [creation_setCreation] at h
  split at h
  · rename_i ht
    exact .inl ⟨ht, h⟩
  · rename_i ht
    exact .inr ⟨ht, h⟩

theorem task_setTask (s : Tended) (id j : Nat) (task : Task) :
    (s.setTask id task).task j = if j = id then some task else s.task j := rfl

/-- Setting a task that there is brings no new one. -/
theorem exists_task_of_setTask {s : Tended} {id j : Nat} {old new task : Task}
    (hold : s.task id = some old) (htask : (s.setTask id new).task j = some task) :
    ∃ old, s.task j = some old := by
  rw [task_setTask] at htask
  split at htask
  · rename_i hj
    exact ⟨old, hj ▸ hold⟩
  · exact ⟨task, htask⟩

theorem creations_concat {id : Nat} {e : TaskEvent} (hnone : creation? id e = none)
    (events : List TaskEvent) :
    (pastOf id (events ++ [e])).creations = (pastOf id events).creations := by
  rw [pastOf_concat, hnone]
  exact List.append_nil _

namespace Orderly

variable {events : List TaskEvent} {s t : Tended} {e : TaskEvent} {id : Nat}

theorem start : Orderly [] start where
  fresh _ _ := rfl
  promised _ _ h := by cases h
  distinct _ _ _ _ h := by cases h
  attended _ _ h := by cases h
  unborn _ _ _ h := by cases h

/-- Once the lock is free, only timers that have been created have a task. -/
theorem born (h : Orderly events s) (hlock : s.Unlocked) {task : Task} (htask : s.task id = some task) :
    (pastOf id events).creations ≠ [] := by
  intro hnew
  obtain ⟨thread, c, hcreation, -, hspawned⟩ := h.unborn id task hnew htask
  rw [hlock thread c hcreation] at hspawned
  cases hspawned

/-- A step that neither begins nor ends a creation. -/
theorem pass (h : Orderly events s) (hnext : t.timers.nextId = s.timers.nextId)
    (hcreation : t.creation = s.creation) (hevent : ∀ id, creation? id e = none)
    (htask : ∀ id task, t.task id = some task → ∃ old, s.task id = some old)
    (hattended : ∀ thread c, s.creation thread = some c → c.spawned = true →
      ∃ task, t.task c.id = some task ∧ Attends task c.repeating) :
    Orderly (events ++ [e]) t where
  fresh id hle := by
    rw [creations_concat (hevent id)]
    exact h.fresh id (hnext ▸ hle)
  promised thread c hc := by
    rw [creations_concat (hevent c.id), hnext]
    exact h.promised thread c (hcreation ▸ hc)
  distinct thread thread' c c' hc hc' := h.distinct thread thread' c c' (hcreation ▸ hc) (hcreation ▸ hc')
  attended thread c hc := hattended thread c (hcreation ▸ hc)
  unborn id task hnew ht := by
    rw [creations_concat (hevent id)] at hnew
    obtain ⟨old, hold⟩ := htask id task ht
    rw [hcreation]
    exact h.unborn id old hnew hold

/-- The task of a timer goes on, and a creation that waits for it is not disturbed. -/
theorem proceed {old new : Task} (h : Orderly events s) (hold : s.task id = some old)
    (hnew : Attends new old.timer.repeating) (hnext : t.timers.nextId = s.timers.nextId)
    (hcreation : t.creation = s.creation) (htask : t.task = (s.setTask id new).task)
    (hevent : ∀ id, creation? id e = none) : Orderly (events ++ [e]) t := by
  refine h.pass hnext hcreation hevent (fun j task hj => ?_) fun thread c hc hspawned => ?_
  · exact exists_task_of_setTask hold (htask ▸ hj)
  · obtain ⟨task, hget, hattends⟩ := h.attended thread c hc hspawned
    rw [htask, task_setTask]
    by_cases hid : c.id = id
    · rw [if_pos hid]
      rw [hid, hold] at hget
      cases hget
      exact ⟨new, rfl, hattends.repeats ▸ hnew⟩
    · rw [if_neg hid]
      exact ⟨task, hget, hattends⟩

/-- A task that has the lock may end, since no creation waits for it. -/
theorem wake {old new : Task} (h : Orderly events s) (hold : s.task id = some old) (hlock : s.Unlocked)
    (hnext : t.timers.nextId = s.timers.nextId) (hcreation : t.creation = s.creation)
    (htask : t.task = (s.setTask id new).task) (hevent : ∀ id, creation? id e = none) :
    Orderly (events ++ [e]) t := by
  refine h.pass hnext hcreation hevent (fun j task hj => ?_) fun thread c hc hspawned => ?_
  · exact exists_task_of_setTask hold (htask ▸ hj)
  · rw [hlock thread c hc] at hspawned
    cases hspawned

/-- A thread takes the next number, which belongs to nobody else. -/
theorem number (h : Orderly events s) {thread : Nat} (hfree : s.creation thread = none)
    (millis : Nat) (repeating : Bool) (hevent : ∀ id, creation? id e = none) :
    Orderly (events ++ [e]) ({ s with timers.nextId := s.timers.nextId + 1 }.setCreation thread
      (some ⟨s.timers.nextId, millis, repeating, false⟩)) where
  fresh id hle := by
    rw [creations_concat (hevent id)]
    exact h.fresh id (Nat.le_of_succ_le hle)
  promised t c hc := by
    rw [creations_concat (hevent c.id)]
    rcases creation_setCreation_eq_some hc with ⟨-, heq⟩ | ⟨-, hold⟩
    · cases heq
      exact ⟨Nat.lt_succ_self _, h.fresh _ (Nat.le_refl _)⟩
    · obtain ⟨hlt, hnone⟩ := h.promised t c hold
      exact ⟨Nat.lt_succ_of_lt hlt, hnone⟩
  distinct t t' c c' hc hc' hid := by
    rcases creation_setCreation_eq_some hc with ⟨ht, heq⟩ | ⟨-, hold⟩ <;>
      rcases creation_setCreation_eq_some hc' with ⟨ht', heq'⟩ | ⟨-, hold'⟩
    · rw [ht, ht']
    · cases heq
      exact absurd (h.promised t' c' hold').1 (by rw [← hid]; exact Nat.lt_irrefl _)
    · cases heq'
      exact absurd (h.promised t c hold).1 (by rw [hid]; exact Nat.lt_irrefl _)
    · exact h.distinct t t' c c' hold hold' hid
  attended t c hc hspawned := by
    rcases creation_setCreation_eq_some hc with ⟨-, heq⟩ | ⟨-, hold⟩
    · cases heq
      cases hspawned
    · exact h.attended t c hold hspawned
  unborn id task hnew htask := by
    rw [creations_concat (hevent id)] at hnew
    obtain ⟨t, c, hold, hid, hspawned⟩ := h.unborn id task hnew htask
    have hne : t ≠ thread := fun heq => by
      rw [heq, hfree] at hold
      cases hold
    exact ⟨t, c, (if_neg hne).trans hold, hid, hspawned⟩

theorem ask (h : Orderly events s) {thread : Nat} {delay : Int} {repeating : Bool}
    (hfree : s.creation thread = none) :
    Orderly (events ++ [.asked thread delay repeating (s.ask thread delay repeating).1])
      (s.ask thread delay repeating).2 := by
  by_cases hneg : delay < 0
  · have hask : (s.ask thread delay repeating).2 = s := by simp [Tended.ask, Timers.number, hneg]
    rw [hask]
    exact h.pass rfl rfl (fun _ => rfl) (fun _ task htask => ⟨task, htask⟩) h.attended
  · have hask : (s.ask thread delay repeating).2 =
        { s with timers.nextId := s.timers.nextId + 1 }.setCreation thread
          (some ⟨s.timers.nextId, delay.toNat, repeating, false⟩) := by
      simp [Tended.ask, Timers.number, hneg]
    rw [hask]
    exact h.number hfree _ _ fun _ => rfl

theorem spawn (h : Orderly events s) {thread : Nat} {c : Creation}
    (hcreation : s.creation thread = some c) (hlock : s.Unlocked) :
    Orderly (events ++ [.spawned thread c.id])
      ((s.setTask c.id ⟨s.timers.armed c.millis c.repeating, .spawned⟩).setCreation thread
        (some { c with spawned := true })) where
  fresh id hle := by
    rw [creations_concat rfl]
    exact h.fresh id hle
  promised t d hd := by
    rw [creations_concat rfl]
    rcases creation_setCreation_eq_some hd with ⟨-, heq⟩ | ⟨-, hold⟩
    · cases heq
      exact h.promised thread c hcreation
    · exact h.promised t d hold
  distinct t t' d d' hd hd' hid := by
    rcases creation_setCreation_eq_some hd with ⟨rfl, heq⟩ | ⟨-, hold⟩ <;>
      rcases creation_setCreation_eq_some hd' with ⟨rfl, heq'⟩ | ⟨-, hold'⟩
    · rfl
    · cases heq
      exact h.distinct _ t' c d' hcreation hold' hid
    · cases heq'
      exact h.distinct t _ d c hold hcreation hid
    · exact h.distinct t t' d d' hold hold' hid
  attended t d hd hspawned := by
    rcases creation_setCreation_eq_some hd with ⟨-, heq⟩ | ⟨-, hold⟩
    · cases heq
      exact ⟨_, (task_setTask s c.id c.id _).trans (if_pos rfl), rfl, by simp⟩
    · -- before the step nobody has spawned a task
      rw [hlock t d hold] at hspawned
      cases hspawned
  unborn id task hnew htask := by
    rw [creations_concat rfl] at hnew
    have hget := (task_setTask s c.id id _).symm.trans htask
    split at hget
    · rename_i hid
      exact ⟨thread, { c with spawned := true }, if_pos rfl, hid.symm, rfl⟩
    · exact absurd hnew (h.born hlock hget)

theorem enlist (h : Orderly events s) {thread : Nat} {c : Creation}
    (hcreation : s.creation thread = some c) :
    Orderly (events ++ [.created thread c.id c.repeating])
      ({ s with timers := s.timers.enlist c.id c.millis c.repeating }.setCreation thread none) := by
  have hold : ∀ {t d}, ({ s with timers := s.timers.enlist c.id c.millis c.repeating }.setCreation thread
      none).creation t = some d → t ≠ thread ∧ s.creation t = some d := fun hd =>
    (creation_setCreation_eq_some hd).elim (fun heq => nomatch heq.2) id
  have hother : ∀ {id}, id ≠ c.id → creation? id (.created thread c.id c.repeating) = none :=
    fun hne => creation?_of_ne hne _ _
  exact {
    fresh := fun id hle => by
      have hlt := (h.promised thread c hcreation).1
      have hle' : s.timers.nextId ≤ id := hle
      rw [creations_concat (hother (by omega))]
      exact h.fresh id hle
    promised := fun t d hd => by
      obtain ⟨hne, hd⟩ := hold hd
      rw [creations_concat (hother fun hid => hne (h.distinct t thread d c hd hcreation hid))]
      exact h.promised t d hd
    distinct := fun t t' d d' hd hd' => h.distinct t t' d d' (hold hd).2 (hold hd').2
    attended := fun t d hd => h.attended t d (hold hd).2
    unborn := fun id task hnew htask => by
      have hid : id ≠ c.id := fun hid => by
        rw [hid, pastOf_created] at hnew
        exact List.append_ne_nil_of_right_ne_nil _ (List.cons_ne_nil _ _) hnew
      rw [creations_concat (hother hid)] at hnew
      obtain ⟨t, d, hd, hdid, hspawned⟩ := h.unborn id task hnew htask
      have hne : t ≠ thread := fun heq => by
        rw [heq, hcreation] at hd
        cases hd
        exact hid hdid.symm
      exact ⟨t, d, (if_neg hne).trans hd, hdid, hspawned⟩ }

end Orderly

/-! ## Runs -/

/-- What holds after every run: each timer has one of the histories. -/
structure Sound (events : List TaskEvent) (s : Tended) : Prop where
  indexed : s.queue.Indexed
  orderly : Orderly events s
  course : ∀ id, Course (s.timers.kind? id) (s.task id) (s.queue.count (.timer id)) (pastOf id events)

namespace Sound

variable {events : List TaskEvent} {s t : Tended} {e : TaskEvent} {id : Nat}

theorem start : Sound [] start where
  indexed := Ready.Queue.indexed_empty
  orderly := .start
  course _ := .unborn none

theorem ask (h : Sound events s) {thread : Nat} {delay : Int} {repeating : Bool}
    (hfree : s.creation thread = none) :
    Sound (events ++ [.asked thread delay repeating (s.ask thread delay repeating).1])
      (s.ask thread delay repeating).2 := by
  have hsame : (s.ask thread delay repeating).2.queue = s.queue ∧
      (s.ask thread delay repeating).2.task = s.task ∧
      ∀ id, (s.ask thread delay repeating).2.timers.kind? id = s.timers.kind? id := by
    rw [Tended.ask, Timers.number]
    split
    · exact ⟨rfl, rfl, fun _ => rfl⟩
    · rename_i hnumber
      split at hnumber <;> cases hnumber
      exact ⟨rfl, rfl, fun _ => rfl⟩
  obtain ⟨hqueue, htask, hkind⟩ := hsame
  refine ⟨hqueue ▸ h.indexed, h.orderly.ask hfree, fun id => ?_⟩
  rw [hqueue, htask, hkind, pastOf_concat_of_silent rfl rfl rfl]
  exact h.course id

/-- The task of a timer goes on, without a look at what is live. -/
theorem proceed {old new : Task} (h : Sound events s) (hold : s.task id = some old)
    (hgoes : old.stage ≠ .ended) (hnew : Attends new old.timer.repeating)
    (hnext : t.timers.nextId = s.timers.nextId) (hkind : ∀ j, t.timers.kind? j = s.timers.kind? j)
    (hqueue : t.queue = s.queue) (hcreation : t.creation = s.creation)
    (htask : t.task = (s.setTask id new).task) (hsilent : ∀ j, creation? j e = none)
    (hasleep : ∀ j, wakeup? j e = none) (htakes : ∀ j, takes j e = false) :
    Sound (events ++ [e]) t := by
  refine ⟨hqueue ▸ h.indexed, h.orderly.proceed hold hnew hnext hcreation htask hsilent,
    fun j => ?_⟩
  have hcourse := h.course j
  rw [pastOf_concat_of_silent (hsilent j) (hasleep j) (htakes j), hkind, hqueue, htask, task_setTask]
  split
  · rename_i hj
    rw [hj, hold] at hcourse
    exact hj ▸ hcourse.proceed hgoes hnew
  · exact hcourse

theorem spawn (h : Sound events s) {thread : Nat} {c : Creation} (hcreation : s.creation thread = some c)
    (hlock : s.Unlocked) :
    Sound (events ++ [.spawned thread c.id])
      ((s.setTask c.id ⟨s.timers.armed c.millis c.repeating, .spawned⟩).setCreation thread
        (some { c with spawned := true })) := by
  refine ⟨h.indexed, h.orderly.spawn hcreation hlock, fun id => ?_⟩
  have hcourse := h.course id
  rw [pastOf_concat_of_silent rfl rfl rfl]
  by_cases hid : id = c.id
  · exact hcourse.prepare (hid ▸ (h.orderly.promised thread c hcreation).2) _
  · have htask := task_setTask s c.id id ⟨s.timers.armed c.millis c.repeating, .spawned⟩
    rw [if_neg hid] at htask
    rw [← htask] at hcourse
    exact hcourse

theorem enlist (h : Sound events s) {thread : Nat} {c : Creation}
    (hcreation : s.creation thread = some c) (hspawned : c.spawned = true) :
    Sound (events ++ [.created thread c.id c.repeating])
      ({ s with timers := s.timers.enlist c.id c.millis c.repeating }.setCreation thread none) := by
  refine ⟨h.indexed, h.orderly.enlist hcreation, fun id => ?_⟩
  have hcourse := h.course id
  show Course ((s.timers.enlist c.id c.millis c.repeating).kind? id) (s.task id)
    (s.queue.count (.timer id)) _
  rw [kind?_enlist]
  by_cases hid : id = c.id
  · subst hid
    obtain ⟨task, htask, hattends⟩ := h.orderly.attended thread c hcreation hspawned
    rw [htask] at hcourse ⊢
    rw [if_pos rfl, pastOf_created]
    exact hcourse.create (h.orderly.promised thread c hcreation).2 hattends
  · rw [if_neg hid, pastOf_concat_of_silent (creation?_of_ne hid _ _) rfl rfl]
    exact hcourse

theorem wake (h : Sound events s) {task : Task} (htask : s.task id = some task)
    (hasleep : task.stage = .asleep) (hlock : s.Unlocked) :
    Sound (events ++ [.woken id (s.wakeup id)])
      ({ s with
        timers := (s.timers.fire s.queue id).1
        queue := (s.timers.fire s.queue id).2 }.setTask id
          { task with stage := s.stageAfter id task }) := by
  have hborn := h.orderly.born hlock htask
  refine ⟨(Shared.Step.wake id).indexed h.indexed, h.orderly.wake htask hlock (nextId_fire _ _ _) rfl rfl
    fun _ => rfl, fun j => ?_⟩
  have hcourse := h.course j
  show Course ((s.timers.fire s.queue id).1.kind? j) _ ((s.timers.fire s.queue id).2.count (.timer j)) _
  rw [task_setTask]
  by_cases hj : j = id
  · subst hj
    rw [htask] at hcourse
    rw [kind?_fire_self, pastOf_woken, if_pos rfl, stageAfter_eq, wakeup_eq h.indexed]
    exact hcourse.wake (by rw [hasleep]; decide) hborn _
  · rw [kind?_fire_of_ne _ _ hj, count_fire_of_ne _ h.indexed hj, if_neg hj,
      pastOf_concat_of_silent rfl (wakeup?_of_ne hj _) rfl]
    exact hcourse

theorem other (h : Sound events s) {e : Event} {shared : Shared}
    (hstep : Shared.Step s.toShared e shared) (hallows : s.Allows e) :
    Sound (events ++ [.other e]) { s with toShared := shared } := by
  have hcreated : ∀ j, e ≠ .created j := fun j heq => by
    rw [heq] at hallows
    exact hallows
  have hwoken : ∀ j accepted, e ≠ .woken j accepted := fun j accepted heq => by
    rw [heq] at hallows
    exact hallows
  refine ⟨?_, ?_, fun id => ?_⟩
  · exact hstep.indexed h.indexed
  · exact h.orderly.pass (nextId_of_step hstep hcreated) rfl (fun _ => rfl) (fun _ task htask => ⟨task, htask⟩)
      h.orderly.attended
  · rw [pastOf_concat]
    have hcourse := (h.course id).other h.indexed hstep hcreated hwoken
    rw [show creation? id (.other e) = none from rfl, show wakeup? id (.other e) = none from rfl]
    simpa using hcourse

theorem step (h : Sound events s) (hstep : Step s e t) : Sound (events ++ [e]) t := by
  cases hstep with
  | ask thread delay repeating hleisure hfree => exact h.ask hfree
  | spawn thread hcreation hfirst hlock => exact h.spawn hcreation hlock
  | enlist thread hcreation hspawned => exact h.enlist hcreation hspawned
  | begin id htask hstage =>
      exact h.proceed htask (by rw [hstage]; decide) (by exact ⟨rfl, by simp⟩) rfl (fun _ => rfl) rfl rfl rfl
        (fun _ => rfl) (fun _ => rfl) fun _ => rfl
  | wake id htask hstage hdue hlock => exact h.wake htask hstage hlock
  | rearm id htask hstage =>
      exact h.proceed htask (by rw [hstage]; decide) (by exact ⟨rfl, by simp⟩) (nextId_rearm _ _)
        (kind?_rearm s.timers _) rfl rfl rfl (fun _ => rfl) (fun _ => rfl) fun _ => rfl
  | other hstep hallows => exact h.other hstep hallows

theorem of_run (hrun : Run events s) : Sound events s := by
  induction hrun with
  | start => exact .start
  | step hrun hstep ih => exact ih.step hstep

end Sound

/-! ## Fates -/

/-- A firing of the timer has been offered to the queue. -/
def Fired (id : Nat) (events : List TaskEvent) : Prop :=
  ∃ wakeup, .woken id wakeup ∈ events ∧ wakeup ≠ .missing

/-- A cancellation has taken the timer out of the live set. -/
def Cancelled (id : Nat) (events : List TaskEvent) : Prop := ∃ e ∈ events, takes id e = true

variable {events : List TaskEvent} {s t : Tended} {e : TaskEvent} {id : Nat}

theorem mem_creations {thread : Nat} {repeating : Bool} (hmem : .created thread id repeating ∈ events) :
    repeating ∈ (pastOf id events).creations :=
  List.mem_filterMap.2 ⟨_, hmem, if_pos rfl⟩

theorem mem_wakeups_iff {wakeup : Wakeup} :
    wakeup ∈ (pastOf id events).wakeups ↔ .woken id wakeup ∈ events := by
  refine List.mem_filterMap.trans ⟨?_, fun hmem => ⟨_, hmem, if_pos rfl⟩⟩
  rintro ⟨e, hmem, hwakeup⟩
  cases e with
  | woken j other =>
      rw [wakeup?] at hwakeup
      split at hwakeup
      · rename_i hid
        cases hwakeup
        exact hid ▸ hmem
      · cases hwakeup
  | asked | spawned | created | begun | rearmed | other => cases hwakeup

theorem fired_iff : Fired id events ↔ ∃ wakeup ∈ (pastOf id events).wakeups, wakeup ≠ .missing := by
  simp only [Fired, mem_wakeups_iff]

theorem cancelled_iff : Cancelled id events ↔ (pastOf id events).taken = true :=
  List.any_eq_true.symm

namespace Sound

/-- The three fates of a timer that fires once. -/
theorem fate (h : Sound events s) (hcreated : false ∈ (pastOf id events).creations) :
    (s.timers.isLive id = true ∧ ¬Fired id events ∧ ¬Cancelled id events ∧
      ∃ task, s.task id = some task ∧ task.stage ≠ .ended) ∨
    (s.timers.isLive id = false ∧ Fired id events ∧ ¬Cancelled id events ∧
      (pastOf id events).wakeups = [.accepted]) ∨
    (s.timers.isLive id = false ∧ ¬Fired id events ∧ Cancelled id events) := by
  rw [isLive_eq, fired_iff, cancelled_iff]
  rcases (h.course id).one_shot hcreated with
    ⟨hkind, hwakeups, htaken, hattending⟩ | ⟨hkind, hwakeups, htaken⟩ | ⟨hkind, hwakeups, htaken⟩
  · refine .inl ⟨hkind, ?_, Bool.eq_false_iff.1 htaken, hattending⟩
    rw [hwakeups]
    rintro ⟨w, hmem, -⟩
    cases hmem
  · refine .inr (.inl ⟨by rw [hkind]; rfl, ?_, Bool.eq_false_iff.1 htaken, hwakeups⟩)
    rw [hwakeups]
    exact ⟨.accepted, List.mem_cons_self, by decide⟩
  · refine .inr (.inr ⟨by rw [hkind]; rfl, ?_, htaken⟩)
    rintro ⟨w, hmem, hoffered⟩
    exact hoffered (hwakeups w hmem)

/-- The number of a new timer has not been returned before. -/
theorem number_is_new (h : Sound events s) (hstep : Step s e t) {thread : Nat} {repeating : Bool}
    (he : e = .created thread id repeating) (thread' : Nat) (repeating' : Bool) :
    .created thread' id repeating' ∉ events := by
  intro hmem
  subst he
  cases hstep with
  | enlist thread hcreation hspawned =>
      have hold := mem_creations hmem
      rw [(h.orderly.promised thread _ hcreation).2] at hold
      cases hold

/-- A task that wakes up has the timer before it, unless that was cancelled. -/
theorem cancelled_of_missing (h : Sound events s) (hstep : Step s e t) (he : e = .woken id .missing) :
    Cancelled id events := by
  cases hstep with
  | wake other htask hstage hdue hlock =>
      injection he with hid hmissing
      subst hid
      have hcourse := h.course other
      rw [htask] at hcourse
      have hgone := Wakeup.eq_none_of_missing ((wakeup_eq h.indexed other).symm.trans hmissing)
      exact cancelled_iff.2 (hcourse.taken_of_gone (h.orderly.born hlock htask) hgone
        (by rw [hstage]; decide))
  | _ => cases he

end Sound

/-- What a thread is told that asks for a timer. -/
theorem Step.answer_of_asked (hstep : Step s e t) {thread : Nat} {delay : Int} {repeating : Bool}
    {answer : Except HostFault Nat} (he : e = .asked thread delay repeating answer) :
    if delay < 0 then answer = .error (.invalidDelay delay) ∧ t = s
    else answer = .ok s.timers.nextId := by
  cases hstep with
  | ask thread' delay' repeating' hleisure hfree =>
      injection he with hthread hdelay hrepeating hanswer
      subst hthread hdelay hrepeating hanswer
      by_cases hneg : delay' < 0 <;> simp [Tended.ask, Timers.number, hneg]
  | _ => cases he

/-- What a wake-up makes of the queue: a firing that is accepted becomes its last entry. -/
theorem Step.queue_of_woken (hstep : Step s e t) {wakeup : Wakeup} (he : e = .woken id wakeup) :
    t.queue.entries = s.queue.entries ++ (if wakeup = .accepted then [.firing id] else []) ∧
      t.queue.accepted = s.queue.accepted + (if wakeup = .accepted then 1 else 0) ∧
      t.queue.coalesced = s.queue.coalesced + (if wakeup = .coalesced then 1 else 0) := by
  cases hstep with
  | wake other htask hstage hdue hlock =>
      injection he with hid hwakeup
      subst hid hwakeup
      show (s.timers.fire s.queue other).2.entries = _ ∧ (s.timers.fire s.queue other).2.accepted = _ ∧
        (s.timers.fire s.queue other).2.coalesced = _
      rw [queue_fire, wakeup]
      by_cases hlive : s.timers.isLive other = true
      · by_cases hadmits : s.queue.admits (.timer other) = true
        · simp [hlive, hadmits, Queue.enqueue, Queue.offer, Queue.push, Queue.signal]
        · simp [hlive, hadmits, Queue.enqueue, Queue.offer, Queue.coalesce]
      · simp [hlive]
  | _ => cases he

/-- No other step puts a firing of the timer into the queue. -/
theorem Step.count_le (hstep : Step s e t) (hindexed : s.queue.Indexed) (he : wakeup? id e = none) :
    t.queue.count (.timer id) ≤ s.queue.count (.timer id) := by
  cases hstep with
  | ask thread delay repeating =>
      rw [Tended.ask]
      split <;> exact Nat.le_refl _
  | spawn | enlist | begin | rearm => exact Nat.le_refl _
  | wake other =>
      refine Nat.le_of_eq (count_fire_of_ne _ hindexed ?_)
      rintro rfl
      rw [wakeup?, if_pos rfl] at he
      cases he
  | @other _ shared hstep hallows =>
      show shared.queue.count _ ≤ _
      cases hstep with
      | wake => exact hallows.elim
      | complete j outcome =>
          rw [Queue.count_enqueue_completion, if_neg (by simp)]
          exact Nat.le_refl _
      | drain | clear => exact Nat.zero_le _
      | discard | discardOne =>
          show (s.queue.discard _).2.count _ ≤ _
          rw [hindexed.count_discard]
          split
          · exact Nat.zero_le _
          · exact Nat.le_refl _
      | create | rearm | elapse | remove | removeAll | finishAll => exact Nat.le_refl _

/-- **A timer that fires once is delivered exactly once.**  Whatever threads and tasks have done, a timer
that was created to fire once is in exactly one of three states: it is live, or it has fired, or it has
been cancelled while it was live.  As long as it is live, its task is there and has not ended.  If it has
fired, there was one wake-up of its task in the whole run, whose firing was accepted by the queue.

Whatever happens next: a firing that is accepted becomes the last entry of the queue and is counted, no
other wake-up changes the entries, and nothing but its own wake-up puts a firing of a timer in; a
creation returns a number that none has returned before; a task does not miss its timer unless that was
cancelled; and a thread that asks for a negative delay is refused and changes nothing, while every other
delay is given the next number. -/
theorem one_shot_is_delivered_once (hrun : Run events s) :
    (∀ thread id, .created thread id false ∈ events →
      let live := s.timers.isLive id = true
      let fired := Fired id events
      let cancelled := Cancelled id events
      ((live ∧ ¬fired ∧ ¬cancelled) ∨ (¬live ∧ fired ∧ ¬cancelled) ∨
        (¬live ∧ ¬fired ∧ cancelled)) ∧
      (live → ∃ task, s.task id = some task ∧ task.stage ≠ .ended) ∧
      (fired → events.filterMap (wakeup? id) = [.accepted])) ∧
    ∀ e t, Step s e t →
      (∀ id wakeup, e = .woken id wakeup →
        t.queue.entries = s.queue.entries ++ (if wakeup = .accepted then [.firing id] else []) ∧
        t.queue.accepted = s.queue.accepted + (if wakeup = .accepted then 1 else 0) ∧
        t.queue.coalesced = s.queue.coalesced + (if wakeup = .coalesced then 1 else 0)) ∧
      (∀ id, wakeup? id e = none → t.queue.count (.timer id) ≤ s.queue.count (.timer id)) ∧
      (∀ thread id repeating, e = .created thread id repeating →
        ∀ thread' repeating', .created thread' id repeating' ∉ events) ∧
      (∀ id, e = .woken id .missing → Cancelled id events) ∧
      (∀ thread delay repeating answer, e = .asked thread delay repeating answer →
        if delay < 0 then answer = .error (.invalidDelay delay) ∧ t = s
        else answer = .ok s.timers.nextId) := by
  have h := Sound.of_run hrun
  refine ⟨fun thread id hcreated => ?_, fun e t hstep => ⟨fun _ _ he => hstep.queue_of_woken he,
    fun _ he => hstep.count_le h.indexed he, fun _ _ _ he => h.number_is_new hstep he,
    fun _ he => h.cancelled_of_missing hstep he, fun _ _ _ _ he => hstep.answer_of_asked he⟩⟩
  intro live fired cancelled
  rcases h.fate (mem_creations hcreated) with ⟨hlive, hfired, hcancelled, hattending⟩ |
    ⟨hdead, hfired, hcancelled, honce⟩ | ⟨hdead, hfired, hcancelled⟩
  · exact ⟨.inl ⟨hlive, hfired, hcancelled⟩, fun _ => hattending, fun hf => absurd hf hfired⟩
  · have hnot : ¬live := Bool.eq_false_iff.1 hdead
    exact ⟨.inr (.inl ⟨hnot, hfired, hcancelled⟩), fun hl => absurd hl hnot, fun _ => honce⟩
  · have hnot : ¬live := Bool.eq_false_iff.1 hdead
    exact ⟨.inr (.inr ⟨hnot, hfired, hcancelled⟩), fun hl => absurd hl hnot,
      fun hf => absurd hf hfired⟩

/-- The task of the first timer begins before the timer is live, and fires it at once.  The second timer
is cancelled. -/
def hasty : List TaskEvent :=
  [.asked 0 0 false (.ok 1), .spawned 0 1, .begun 1, .created 0 1 false, .woken 1 .accepted,
    .asked 0 5 false (.ok 2), .spawned 0 2, .created 0 2 false, .other (.removed 0 2 true)]

theorem run_hasty : ∃ s, Run hasty s := by
  have h1 := Run.start.step (.ask 0 0 false rfl rfl)
  have h2 := h1.step (.spawn 0 rfl rfl (unlocked_of_first (fun _ hc => by cases hc; rfl) fun _ => rfl))
  have h3 := h2.step (.begin 1 rfl rfl)
  have h4 := h3.step (.enlist 0 rfl rfl)
  have h5 := h4.step (.wake 1 rfl rfl (Nat.le_refl _) (unlocked_of_first nofun fun _ => rfl))
  have h6 := h5.step (.ask 0 5 false rfl rfl)
  have h7 := h6.step (.spawn 0 rfl rfl (unlocked_of_first (fun _ hc => by cases hc; rfl) fun _ => rfl))
  have h8 := h7.step (.enlist 0 rfl rfl)
  exact ⟨_, h8.step
    (.other (@Shared.Step.remove _ 0 2 rfl) ⟨unlocked_of_first nofun fun _ => rfl, rfl⟩)⟩

/-- The first timer is live no more when its wake-up is over, and has been delivered; the second never
will be. -/
theorem hasty_timer_is_delivered_once : ∃ s, Run hasty s ∧
    hasty.filterMap (wakeup? 1) = [.accepted] ∧ s.timers.isLive 1 = false ∧ ¬Cancelled 1 hasty ∧
    Cancelled 2 hasty ∧ s.timers.isLive 2 = false ∧ ¬Fired 2 hasty := by
  obtain ⟨s, hrun⟩ := run_hasty
  obtain ⟨hfate, -⟩ := one_shot_is_delivered_once hrun
  obtain ⟨hfirst, -, honce⟩ := hfate 0 1 (List.mem_of_getElem? (i := 3) rfl)
  obtain ⟨hsecond, -, -⟩ := hfate 0 2 (List.mem_of_getElem? (i := 7) rfl)
  have hfired : Fired 1 hasty := ⟨.accepted, List.mem_of_getElem? (i := 4) rfl, by decide⟩
  have hcancelled : Cancelled 2 hasty := ⟨_, List.mem_of_getElem? (i := 8) rfl, rfl⟩
  simp only [hfired, hcancelled, not_true_eq_false, and_true, and_false, true_and, false_and, or_false,
    false_or, Bool.not_eq_true] at hfirst hsecond
  exact ⟨s, hrun, honce hfired, hfirst.1, hfirst.2, hcancelled, hsecond.1, hsecond.2⟩

end Tended
end ScriptHost.Timers
