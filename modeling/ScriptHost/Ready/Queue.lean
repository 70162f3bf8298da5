import ScriptHost.Ready.Callback

/-!
# The queue of ready callbacks

Callbacks wait in the order in which they became ready.  A timer waits at most once: while one of
its firings is queued, further ones are coalesced into it.  The queue keeps an index of the timers
that wait, and a wake-up token that tells its one consumer that something was accepted since the
token was last taken.  Several acceptances leave one token, and taking entries out leaves it too.

`offer` and `signal` are the two halves of an `enqueue`; a producer may be interrupted between them.
Only an accepted offer is followed by a signal.
-/

namespace ScriptHost.Ready

/-- The queue, with the counts of accepted and of coalesced entries. -/
structure Queue where
  entries : List Callback
  /-- The index: the timers that have an entry. -/
  waiting : List Nat
  token : Bool
  accepted : Nat
  coalesced : Nat
  deriving Inhabited

namespace Queue

/-- The queue that nothing has been offered to. -/
def empty : Queue := ⟨[], [], false, 0, 0⟩

/-- Whether an entry for this target would be accepted. -/
def admits (q : Queue) : Target → Bool
  | .timer id => !q.waiting.contains id
  | .completion _ => true

/-- Put an admitted callback at the end, and count it. -/
def push (q : Queue) (c : Callback) : Queue :=
  { q with
    entries := q.entries ++ [c]
    waiting := match c.target with
      | .timer id => id :: q.waiting
      | .completion _ => q.waiting
    accepted := q.accepted + 1 }

/-- Leave a wake-up token, if there is none. -/
def signal (q : Queue) : Queue := { q with token := true }

/-- Count a firing that found its timer waiting. -/
def coalesce (q : Queue) : Queue := { q with coalesced := q.coalesced + 1 }

/-- Offer a callback: it is put in, or coalesced into the entry that its timer has. -/
def offer (q : Queue) (c : Callback) : Bool × Queue :=
  if q.admits c.target then (true, q.push c) else (false, q.coalesce)

/-- Offer a callback, and signal if it was accepted. -/
def enqueue (q : Queue) (c : Callback) : Bool × Queue :=
  let (accepted, q) := q.offer c
  (accepted, if accepted then q.signal else q)

/-- Take everything out, in order. -/
def drain (q : Queue) : List Callback × Queue :=
  (q.entries, { q with entries := [], waiting := [] })

/-- Drop the entry of a timer: whether there was one. -/
def discard (q : Queue) (id : Nat) : Bool × Queue :=
  if q.waiting.contains id then
    (true,
      { q with
        entries := q.entries.filter (·.target ≠ .timer id)
        waiting := q.waiting.filter (· ≠ id) })
  else (false, q)

/-- Drop everything: how many entries that were. -/
def clear (q : Queue) : Nat × Queue :=
  (q.entries.length, { q with entries := [], waiting := [] })

/-- Take the wake-up token: whether there was one. -/
def takeToken (q : Queue) : Bool × Queue := (q.token, { q with token := false })

/-- The number of callbacks waiting. -/
def size (q : Queue) : Nat := q.entries.length

/-- Whether no callback waits. -/
def isEmpty (q : Queue) : Bool := q.entries.isEmpty

end Queue
end ScriptHost.Ready
