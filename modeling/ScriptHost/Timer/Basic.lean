import ScriptHost.Data.Table
import ScriptHost.Fault.Host
import ScriptHost.Ready.Queue

/-!
# Timers

A timer is live from its creation until it is cancelled or, if it fires once only, until it fires.
Membership in the set of live timers is the one source of truth: whatever wakes up to fire a timer
looks there first, and the look, the removal of a timer that fires once and the queueing of the
firing are one step (`fire`).

Cancelling is two steps, `remove` and then `discard` of the queued firing.  The second is taken even
when the first found nothing, since a timer that has fired may still have its firing queued.

An interval is never shorter than one millisecond, and this is part of the type: a timer that
repeats has a positive delay.
-/

namespace ScriptHost

open Ready (Queue)

/-- A live timer.  Times and lengths of time are in milliseconds. -/
structure Timer where
  delay : Nat
  repeating : Bool
  /-- When it fires next. -/
  due : Nat
  /-- The place of its arming among all armings; ties between due times go by it. -/
  arming : Nat
  delay_pos : repeating = true → 0 < delay

/-- The live timers, and the clock that they run on. -/
structure Timers where
  live : Table Nat Timer
  nextId : Nat
  /-- The number of armings so far. -/
  armings : Nat
  now : Nat

namespace Timers

/-- No timers, at time zero. -/
def empty : Timers := ⟨.empty, 1, 0, 0⟩

instance : Inhabited Timers := ⟨empty⟩

/-- The delay that a timer is given: an interval has at least one millisecond. -/
def effectiveDelay (millis : Nat) (repeating : Bool) : Nat :=
  if repeating then max 1 millis else millis

theorem effectiveDelay_pos (millis : Nat) : ∀ repeating : Bool, repeating = true →
    0 < effectiveDelay millis repeating := by
  intro repeating h
  simp only [effectiveDelay, h, if_true]
  omega

/-- Create a timer, armed from now on: its number.  A negative delay is refused and uses no
number. -/
def create (t : Timers) (delay : Int) (repeating : Bool) : Except HostFault (Nat × Timers) :=
  if delay < 0 then .error (.invalidDelay delay)
  else
    let length := effectiveDelay delay.toNat repeating
    .ok (t.nextId,
      { t with
        live := t.live.insert t.nextId
          ⟨length, repeating, t.now + length, t.armings, effectiveDelay_pos _ _⟩
        nextId := t.nextId + 1
        armings := t.armings + 1 })

/-- Whether a timer is live. -/
def isLive (t : Timers) (id : Nat) : Bool := t.live.contains id

/-- The number of live timers. -/
def size (t : Timers) : Nat := t.live.size

/-- The time at which a timer that fires now is due next.  Periods that have been missed are
skipped: a due time in the past is replaced by a full delay from now. -/
def nextDue (timer : Timer) (now : Nat) : Nat :=
  if timer.due + timer.delay < now then now + timer.delay else timer.due + timer.delay

/-- Arm a live timer again after it has fired. -/
def rearm (t : Timers) (id : Nat) : Timers :=
  match t.live.get? id with
  | none => t
  | some timer =>
      { t with
        live := t.live.modify id fun old => { old with due := nextDue timer t.now, arming := t.armings }
        armings := t.armings + 1 }

/-- The wake-up for a timer: if the timer is still live its firing is offered to the queue, and a
timer that fires once is live no more. -/
def fire (t : Timers) (q : Queue) (id : Nat) : Timers × Queue :=
  match t.live.get? id with
  | none => (t, q)
  | some timer =>
      (if timer.repeating then t else { t with live := t.live.erase id },
        (q.enqueue (.firing id)).2)

/-- Take a timer out of the live set: whether it was live. -/
def remove (t : Timers) (id : Nat) : Bool × Timers :=
  (t.isLive id, { t with live := t.live.erase id })

/-- Cancel a timer and drop its queued firing: whether it was live. -/
def cancel (t : Timers) (q : Queue) (id : Nat) : Bool × Timers × Queue :=
  let (live, t) := t.remove id
  (live, t, (q.discard id).2)

/-- Drop the queued firings of several timers. -/
def discardAll (q : Queue) (ids : List Nat) : Queue := ids.foldl (fun q id => (q.discard id).2) q

/-- Cancel every live timer and drop its queued firing: how many were live. -/
def cancelAll (t : Timers) (q : Queue) : Nat × Timers × Queue :=
  (t.size, { t with live := .empty }, discardAll q t.live.keys)

end Timers
end ScriptHost
