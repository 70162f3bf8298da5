import ScriptHost.Proofs.Ready.Index
import ScriptHost.Proofs.Timer.Threads

/-!
# Timers and their tasks

Every timer has a task of its own, which sleeps until the timer is due and then looks the timer up among
the live ones.  The thread that creates a timer takes a number for it (`number`), spawns its task, and
only then makes it live (`enlist`); the task may run at once, on another thread.  What keeps it from
looking too early is the lock of the live timers: the thread takes it before it spawns the task, and
gives it back when the timer is live.

So a creation is three steps here, and `Timers.create` is the three of them with nothing in between
(`create_eq`).  All that does not concern tasks is as in `Shared.Step`.
-/

namespace ScriptHost.Timers

open Ready (Queue)

/-! ## A creation step by step -/

/-- Take the number for a new timer.  A negative delay is refused and uses no number. -/
def number (t : Timers) (delay : Int) : Except HostFault (Nat × Timers) :=
  if delay < 0 then .error (.invalidDelay delay)
  else .ok (t.nextId, { t with nextId := t.nextId + 1 })

/-- A timer that is armed from now on. -/
def armed (t : Timers) (millis : Nat) (repeating : Bool) : Timer :=
  let length := effectiveDelay millis repeating
  ⟨length, repeating, t.now + length, t.armings, effectiveDelay_pos _ _⟩

/-- Make a timer live under the number that was taken for it. -/
def enlist (t : Timers) (id millis : Nat) (repeating : Bool) : Timers :=
  { t with
    live := t.live.insert id (t.armed millis repeating)
    armings := t.armings + 1 }

/-- To create a timer is to take a number and to make the timer live. -/
theorem create_eq (t : Timers) (delay : Int) (repeating : Bool) :
    t.create delay repeating =
      (t.number delay).map fun (id, u) => (id, u.enlist id delay.toNat repeating) := by
  rw [create, number]
  split <;> rfl

theorem kind?_enlist (t : Timers) (id millis : Nat) (repeating : Bool) (j : Nat) :
    (t.enlist id millis repeating).kind? j = if j = id then some repeating else t.kind? j := by
  rw [kind?, enlist, Table.get?_insert, kind?]
  split <;> rfl

/-! ## Wake-ups -/

theorem kind?_fire_self (t : Timers) (q : Queue) (id : Nat) :
    (t.fire q id).1.kind? id = if t.kind? id = some false then none else t.kind? id := by
  rw [kind?_fire]
  simp

theorem kind?_fire_of_ne (t : Timers) (q : Queue) {id j : Nat} (hne : j ≠ id) :
    (t.fire q id).1.kind? j = t.kind? j := by
  rw [kind?_fire, if_neg fun heq => hne heq.1]

/-- A wake-up leaves the entries of other timers alone. -/
theorem count_fire_of_ne (t : Timers) {q : Queue} (hindexed : q.Indexed) {id j : Nat} (hne : j ≠ id) :
    (t.fire q id).2.count (.timer j) = q.count (.timer j) := by
  rw [queue_fire]
  split
  · rw [hindexed.count_enqueue_firing, if_neg fun heq => hne (by cases heq; rfl)]
  · rfl

/-! ## Tasks -/

/-- How far the task of a timer has come. -/
inductive Stage where
  | spawned
  | asleep
  /-- The firing of an interval has been offered, and the next due time is still to be worked out. -/
  | fired
  | ended
  deriving DecidableEq

/-- The task of a timer, with the timer as the task knows it. -/
structure Task where
  timer : Timer
  stage : Stage

/-- A creation that a thread has begun: the number taken, what was asked for, and whether the task has
been spawned.  From then on the thread holds the lock of the live timers. -/
structure Creation where
  id : Nat
  millis : Nat
  repeating : Bool
  spawned : Bool

/-- What a task finds when it wakes up. -/
inductive Wakeup where
  /-- The timer is not live. -/
  | missing
  /-- The firing has become an entry of the queue. -/
  | accepted
  /-- There was an entry already. -/
  | coalesced
  deriving DecidableEq

/-- What is found of a timer, by what it is in the live set and by the number of its entries. -/
def Wakeup.of (kind : Option Bool) (queued : Nat) : Wakeup :=
  if kind.isSome then if queued = 0 then .accepted else .coalesced else .missing

theorem Wakeup.eq_none_of_missing {kind : Option Bool} {queued : Nat}
    (hmissing : Wakeup.of kind queued = .missing) : kind = none := by
  cases kind with
  | none => rfl
  | some repeating =>
      rw [Wakeup.of, Option.isSome_some, if_pos rfl] at hmissing
      split at hmissing <;> cases hmissing

/-- The timers, the queue and the errands of all threads, with the tasks of the timers and the creations
that are under way. -/
structure Tended extends Shared where
  task : Nat → Option Task
  creation : Nat → Option Creation

/-- What a step has done. -/
inductive TaskEvent where
  | asked (thread : Nat) (delay : Int) (repeating : Bool) (answer : Except HostFault Nat)
  | spawned (thread id : Nat)
  /-- A timer has become live, and its creation returns the number. -/
  | created (thread id : Nat) (repeating : Bool)
  | begun (id : Nat)
  | woken (id : Nat) (wakeup : Wakeup)
  | rearmed (id : Nat)
  | other (e : Event)

namespace Tended

/-- No timers, and every thread at leisure. -/
def start : Tended := ⟨.start, fun _ => none, fun _ => none⟩

/-- Nobody holds the lock of the live timers. -/
def Unlocked (s : Tended) : Prop := ∀ thread c, s.creation thread = some c → c.spawned = false

/-- Nobody holds it if only the first thread may create timers, and has not spawned a task. -/
theorem unlocked_of_first {s : Tended} (hfirst : ∀ c, s.creation 0 = some c → c.spawned = false)
    (hrest : ∀ thread, s.creation (thread + 1) = none) : s.Unlocked := by
  intro thread c hc
  cases thread with
  | zero => exact hfirst c hc
  | succ thread =>
      rw [hrest] at hc
      cases hc

def setTask (s : Tended) (id : Nat) (task : Task) : Tended :=
  { s with task := fun j => if j = id then some task else s.task j }

def setCreation (s : Tended) (thread : Nat) (creation : Option Creation) : Tended :=
  { s with creation := fun t => if t = thread then creation else s.creation t }

/-- A thread asks for a timer: the answer, and the creation begun. -/
def ask (s : Tended) (thread : Nat) (delay : Int) (repeating : Bool) :
    Except HostFault Nat × Tended :=
  match s.timers.number delay with
  | .error fault => (.error fault, s)
  | .ok (id, timers) =>
      (.ok id, { s with timers }.setCreation thread (some ⟨id, delay.toNat, repeating, false⟩))

/-- What the task of a timer finds if it wakes up now. -/
def wakeup (s : Tended) (id : Nat) : Wakeup :=
  if s.timers.isLive id then
    if s.queue.admits (.timer id) then .accepted else .coalesced
  else .missing

/-- How far the task of a timer is after it has woken up. -/
def stageAfter (s : Tended) (id : Nat) (task : Task) : Stage :=
  if s.timers.isLive id && task.timer.repeating then .fired else .ended

theorem wakeup_eq {s : Tended} (hindexed : s.queue.Indexed) (id : Nat) :
    s.wakeup id = .of (s.timers.kind? id) (s.queue.count (.timer id)) := by
  rw [wakeup, Wakeup.of, isLive_eq, hindexed id]
  by_cases hin : id ∈ s.queue.waiting <;> simp [Queue.admits, hin]

theorem stageAfter_eq (s : Tended) (id : Nat) (task : Task) :
    s.stageAfter id task =
      if (s.timers.kind? id).isSome && task.timer.repeating then .fired else .ended := by
  rw [stageAfter, isLive_eq]

/-- Steps that do not concern tasks.  Nobody takes timers out while the lock is held, or while he creates
one himself. -/
def Allows (s : Tended) : Event → Prop
  | .created _ | .woken _ _ | .rearmed _ => False
  | .removed thread _ _ | .removedAll thread _ => s.Unlocked ∧ s.creation thread = none
  | _ => True

/-- One step of one thread or of one task.

There is no step for the end of a task whose timer is cancelled: a task is not bound to go on, so it may
be ended wherever it is. -/
inductive Step (s : Tended) : TaskEvent → Tended → Prop where
  | ask (thread : Nat) (delay : Int) (repeating : Bool) (hleisure : s.errand thread = .none)
      (hfree : s.creation thread = none) :
      Step s (.asked thread delay repeating (s.ask thread delay repeating).1)
        (s.ask thread delay repeating).2
  | spawn (thread : Nat) {c : Creation} (hcreation : s.creation thread = some c)
      (hfirst : c.spawned = false) (hlock : s.Unlocked) :
      Step s (.spawned thread c.id)
        ((s.setTask c.id ⟨s.timers.armed c.millis c.repeating, .spawned⟩).setCreation thread
          (some { c with spawned := true }))
  | enlist (thread : Nat) {c : Creation} (hcreation : s.creation thread = some c)
      (hspawned : c.spawned = true) :
      Step s (.created thread c.id c.repeating)
        ({ s with timers := s.timers.enlist c.id c.millis c.repeating }.setCreation thread none)
  | begin (id : Nat) {task : Task} (htask : s.task id = some task) (hstage : task.stage = .spawned) :
      Step s (.begun id)
        (s.setTask id ⟨{ task.timer with due := s.timers.now + task.timer.delay }, .asleep⟩)
  | wake (id : Nat) {task : Task} (htask : s.task id = some task) (hstage : task.stage = .asleep)
      (hdue : task.timer.due ≤ s.timers.now) (hlock : s.Unlocked) :
      Step s (.woken id (s.wakeup id))
        ({ s with
          timers := (s.timers.fire s.queue id).1
          queue := (s.timers.fire s.queue id).2 }.setTask id
            { task with stage := s.stageAfter id task })
  | rearm (id : Nat) {task : Task} (htask : s.task id = some task) (hstage : task.stage = .fired) :
      Step s (.rearmed id)
        ({ s with timers := s.timers.rearm id }.setTask id
          ⟨{ task.timer with due := nextDue task.timer s.timers.now }, .asleep⟩)
  | other {e : Event} {shared : Shared} (hstep : Shared.Step s.toShared e shared)
      (hallows : s.Allows e) : Step s (.other e) { s with toShared := shared }

/-- A run from the start: one step after the other, by whichever threads and tasks. -/
inductive Run : List TaskEvent → Tended → Prop where
  | start : Run [] start
  | step {events : List TaskEvent} {s t : Tended} {e : TaskEvent} (hrun : Run events s)
      (hstep : Step s e t) : Run (events ++ [e]) t

end Tended
end ScriptHost.Timers
