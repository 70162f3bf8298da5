import ScriptHost.Desk.Program
import ScriptHost.Proofs.Network.Flight
import ScriptHost.Proofs.Ready.Registered
import ScriptHost.Proofs.Timer.Liveness

/-!
# Closures and what they wait for

A closure is registered for a timer or for a completion.  The table of closures, the live timers, the
operations, the queue and the batch that a pass has drained are separate things which change at
different moments.  `Standing` puts together, for one target, all that they say of it, and
`Standing.Sound` says how these agree:

* a closure that is used once has exactly one use still to come: its timer or its operation, or an
  entry of the queue, or a callback of the batch;
* a closure that is used again and again belongs to a live interval;
* a target without a closure has nothing to come, except for firings in the batch of a timer that was
  cleared since.

Every step of the host touches one target, so that for each step there is one equation for all other
targets and one argument for its own.
-/

namespace ScriptHost.Desk

open Ready (Callback Closures Queue Target occurrences)
open Network (Coordinator)

variable {F : Type}

/-- Whether a target is a live interval. -/
def isInterval (s : Services) : Target → Bool
  | .timer id => s.timers.kind? id = some true
  | .completion _ => false

/-- How many entries the timers and operations are still to queue for a target; an interval counts
once. -/
def sources (s : Services) : Target → Nat
  | .timer id => if s.timers.isLive id then 1 else 0
  | .completion id => s.network.inFlight id

theorem sources_timer_pos_iff (s : Services) (id : Nat) :
    0 < sources s (.timer id) ↔ s.timers.isLive id = true := by
  rw [sources]
  split <;> simp_all

/-- Whether the number of a target has been given out. -/
def isIssued (s : Services) (closures : Closures F) : Target → Bool
  | .timer id => id < s.timers.nextId
  | .completion id => id < closures.nextCompletion

/-- What there is of a target. -/
@[ext] structure Standing where
  issued : Bool
  /-- Whether the registered closure is used again and again. -/
  closure : Option Bool
  interval : Bool
  sources : Nat
  queued : Nat
  /-- The callbacks for it that a pass has drained and whose closures it has not looked up. -/
  drained : Nat

/-- What there is of a target, with a batch of callbacks whose closures have not been looked up. -/
def standing (s : Services) (closures : Closures F) (batch : List Callback) (t : Target) :
    Standing where
  issued := isIssued s closures t
  closure := closures.flag? t
  interval := isInterval s t
  sources := sources s t
  queued := s.queue.count t
  drained := occurrences batch t

/-- The standing of a timer depends on the timers through its kind alone. -/
theorem standing_timer (s : Services) (closures : Closures F) (batch : List Callback) (id : Nat) :
    standing s closures batch (.timer id) =
      ⟨id < s.timers.nextId, closures.flag? (.timer id), s.timers.kind? id = some true,
        if (s.timers.kind? id).isSome then 1 else 0, s.queue.count (.timer id),
        occurrences batch (.timer id)⟩ := by
  rw [← Timers.isLive_eq]
  rfl

theorem standing_completion (s : Services) (closures : Closures F) (batch : List Callback)
    (id : Nat) :
    standing s closures batch (.completion id) =
      ⟨id < closures.nextCompletion, closures.flag? (.completion id), false,
        s.network.inFlight id, s.queue.count (.completion id),
        occurrences batch (.completion id)⟩ := rfl

/-- A target keeps its standing if its number, its closure, its timer or its operations, its entries
and its callbacks in the batch stay what they are. -/
theorem standing_congr {s s' : Services} {closures closures' : Closures F}
    {batch batch' : List Callback} {t : Target}
    (hissued : isIssued s' closures' t = isIssued s closures t)
    (hclosure : closures'.flag? t = closures.flag? t)
    (hkind : ∀ id, t = .timer id → s'.timers.kind? id = s.timers.kind? id)
    (hflight : ∀ id, t = .completion id → s'.network.inFlight id = s.network.inFlight id)
    (hqueued : s'.queue.count t = s.queue.count t)
    (hdrained : occurrences batch' t = occurrences batch t) :
    standing s' closures' batch' t = standing s closures batch t := by
  refine Standing.ext hissued hclosure ?_ ?_ hqueued hdrained
  · cases t with
    | timer id =>
        show decide (s'.timers.kind? id = some true) = decide (s.timers.kind? id = some true)
        rw [hkind id rfl]
    | completion id => rfl
  · cases t with
    | timer id =>
        show (if s'.timers.isLive id then 1 else 0) = if s.timers.isLive id then 1 else 0
        rw [Timers.isLive_eq, Timers.isLive_eq, hkind id rfl]
    | completion id => exact hflight id rfl

/-- How the parts of a standing agree. -/
def Standing.Sound (t : Target) (x : Standing) : Prop :=
  match x.closure with
  | none =>
      x.sources = 0 ∧ x.queued = 0 ∧ (0 < x.drained → (∃ id, t = .timer id) ∧ x.issued = true)
  | some false =>
      x.issued = true ∧ x.interval = false ∧ x.sources + x.queued + x.drained = 1
  | some true => x.issued = true ∧ x.interval = true

theorem Standing.sound_iff_of_none {t : Target} {x : Standing} (h : x.closure = none) :
    x.Sound t ↔ x.sources = 0 ∧ x.queued = 0 ∧
      (0 < x.drained → (∃ id, t = .timer id) ∧ x.issued = true) := by
  rw [Standing.Sound, h]

theorem Standing.sound_iff_of_once {t : Target} {x : Standing} (h : x.closure = some false) :
    x.Sound t ↔
      x.issued = true ∧ x.interval = false ∧ x.sources + x.queued + x.drained = 1 := by
  rw [Standing.Sound, h]

theorem Standing.sound_iff_of_again {t : Target} {x : Standing} (h : x.closure = some true) :
    x.Sound t ↔ x.issued = true ∧ x.interval = true := by
  rw [Standing.Sound, h]

/-- Table, timers, operations, queue and batch agree on every target. -/
structure Corresponds (s : Services) (closures : Closures F) (batch : List Callback) : Prop where
  indexed : s.queue.Indexed
  numbered : s.network.Numbered
  sound : ∀ t, (standing s closures batch t).Sound t

theorem corresponds_start : Corresponds .idle (.empty : Closures F) [] where
  indexed := Queue.indexed_empty
  numbered := Coordinator.numbered_empty
  sound t := by
    cases t with
    | timer id => exact ⟨rfl, rfl, fun h => absurd h (Nat.lt_irrefl 0)⟩
    | completion id => exact ⟨rfl, rfl, fun h => absurd h (Nat.lt_irrefl 0)⟩

/-- A target whose number has not been given out has nothing to it. -/
theorem Standing.Sound.of_not_issued {t : Target} {x : Standing} (h : x.Sound t)
    (hissued : x.issued = false) : x.sources = 0 ∧ x.queued = 0 ∧ x.drained = 0 := by
  cases hclosure : x.closure with
  | none =>
      obtain ⟨hsources, hqueued, hdrained⟩ := (sound_iff_of_none hclosure).1 h
      refine ⟨hsources, hqueued, Nat.eq_zero_of_not_pos fun hpos => ?_⟩
      rw [(hdrained hpos).2] at hissued
      cases hissued
  | some repeating =>
      have hgiven : x.issued = true := by
        cases repeating with
        | false => exact ((sound_iff_of_once hclosure).1 h).1
        | true => exact ((sound_iff_of_again hclosure).1 h).1
      rw [hgiven] at hissued
      cases hissued

namespace Corresponds

variable {s s' : Services} {closures closures' : Closures F} {batch batch' : List Callback}

/-- A step that changes the standing of one target at most. -/
theorem change (h : Corresponds s closures batch) (target : Target)
    (hindexed : s'.queue.Indexed) (hnumbered : s'.network.Numbered)
    (hframe : ∀ t, t ≠ target → standing s' closures' batch' t = standing s closures batch t)
    (hown : (standing s closures batch target).Sound target →
      (standing s' closures' batch' target).Sound target) :
    Corresponds s' closures' batch' where
  indexed := hindexed
  numbered := hnumbered
  sound t := by
    by_cases ht : t = target
    · rw [ht]
      exact hown (h.sound target)
    · rw [hframe t ht]
      exact h.sound t

/-- A step that changes no standing. -/
theorem same (h : Corresponds s closures batch) (hindexed : s'.queue.Indexed)
    (hnumbered : s'.network.Numbered)
    (hframe : ∀ t, standing s' closures' batch' t = standing s closures batch t) :
    Corresponds s' closures' batch' where
  indexed := hindexed
  numbered := hnumbered
  sound t := by
    rw [hframe t]
    exact h.sound t

end Corresponds
end ScriptHost.Desk
