import ScriptHost.Proofs.Timer.History

/-!
# Firing order is the order of due times

Of all live timers the one that is due first fires first, but what is live changes between firings: timers
are created and cancelled, intervals are armed again, and the clock may jump over many due times at once.
Over all this the firings of a run come in the order of due times, and those of equal due times in the order
in which they were armed (`firings_in_order`).

The reason is the same for every step: whatever is armed is not due before now and is armed after everything
else, and what has fired was due by now.  So no timer ever comes to be live that precedes one that has fired
(`Ordered.ahead`).
-/

namespace ScriptHost

open Ready (Queue)

namespace Timers

/-! ## Live timers -/

/-- What holds of live timers at any time.  Armings are counted, each live timer has one of its own, and is
due within its delay. -/
structure Ranked (t : Timers) : Prop where
  below : ∀ {id timer}, t.live.get? id = some timer → timer.arming < t.armings
  distinct : ∀ {id id' timer timer'}, t.live.get? id = some timer → t.live.get? id' = some timer' →
    timer.arming = timer'.arming → id = id'
  within : ∀ {id timer}, t.live.get? id = some timer → timer.due ≤ t.now + timer.delay
  issued : ∀ {id timer}, t.live.get? id = some timer → id < t.nextId

theorem now_le_nextDue (timer : Timer) (now : Nat) : now ≤ nextDue timer now := by
  rw [nextDue]
  split <;> omega

theorem due_le_nextDue (timer : Timer) (now : Nat) : timer.due ≤ nextDue timer now := by
  rw [nextDue]
  split <;> omega

theorem nextDue_le {timer : Timer} {now : Nat} (hdue : timer.due ≤ now) :
    nextDue timer now ≤ now + timer.delay := by
  rw [nextDue]
  split <;> omega

namespace Ranked

variable {t u : Timers} {id : Nat} {timer : Timer}

theorem empty : Ranked empty := ⟨nofun, nofun, nofun, nofun⟩

/-- Timers go, or time passes. -/
theorem mono (h : Ranked t)
    (hkept : ∀ id timer, u.live.get? id = some timer → t.live.get? id = some timer)
    (hnow : t.now ≤ u.now) (harmings : u.armings = t.armings) (hnext : u.nextId = t.nextId) :
    Ranked u where
  below hget := harmings ▸ h.below (hkept _ _ hget)
  distinct hget hget' := h.distinct (hkept _ _ hget) (hkept _ _ hget')
  within hget := Nat.le_trans (h.within (hkept _ _ hget)) (Nat.add_le_add_right hnow _)
  issued hget := hnext ▸ h.issued (hkept _ _ hget)

/-- A timer is armed. -/
theorem arm (h : Ranked t)
    (hlive : ∀ j, u.live.get? j = if j = id then some timer else t.live.get? j)
    (hwithin : timer.due ≤ u.now + timer.delay) (harming : timer.arming = t.armings)
    (hissued : id < u.nextId) (hnow : t.now ≤ u.now) (harmings : u.armings = t.armings + 1)
    (hnext : t.nextId ≤ u.nextId) : Ranked u where
  below hget := by
    rcases get?_cases hlive hget with ⟨hold, -⟩ | ⟨rfl, rfl⟩
    · have := h.below hold
      omega
    · omega
  distinct hget hget' heq := by
    rcases get?_cases hlive hget with ⟨hold, -⟩ | ⟨rfl, rfl⟩ <;>
      rcases get?_cases hlive hget' with ⟨hold', -⟩ | ⟨rfl, rfl⟩
    · exact h.distinct hold hold' heq
    · have := h.below hold
      omega
    · have := h.below hold'
      omega
    · rfl
  within hget := by
    rcases get?_cases hlive hget with ⟨hold, -⟩ | ⟨rfl, rfl⟩
    · exact Nat.le_trans (h.within hold) (Nat.add_le_add_right hnow _)
    · exact hwithin
  issued hget := by
    rcases get?_cases hlive hget with ⟨hold, -⟩ | ⟨rfl, rfl⟩
    · exact Nat.lt_of_lt_of_le (h.issued hold) hnext
    · exact hissued

theorem move {entries : List Entry} (h : Ranked t) (hmove : Move t entries u) : Ranked u := by
  cases hmove with
  | pass hkept hnow harmings hnext => exact h.mono hkept hnow harmings hnext
  | did => exact h
  | @create _ timer hlive hdue harming hnow harmings hnext =>
      exact h.arm hlive (by omega) harming (by omega) (Nat.le_of_eq hnow.symm) harmings (by omega)
  | fire hget honce hfirst =>
      exact h.mono (fun j other hother => (get?_of_without hother).1) (Nat.le_max_left _ _) rfl rfl
  | @refire _ id timer hget hrepeats hfirst hlive hnow harmings hnext =>
      have hwithin : nextDue timer (max t.now timer.due) ≤ u.now + timer.delay := by
        rw [hnow]
        exact nextDue_le (Nat.le_max_right _ _)
      exact h.arm hlive hwithin rfl (hnext ▸ h.issued hget) (by omega) harmings
        (Nat.le_of_eq hnext.symm)

/-- The timer that fires precedes every other one. -/
theorem precedes (h : Ranked t) (hget : t.live.get? id = some timer)
    (hfirst : ∀ j other, t.live.get? j = some other → ¬other.Precedes timer) {j : Nat} {other : Timer}
    (hother : t.live.get? j = some other) (hne : j ≠ id) : timer.Precedes other := by
  have hnot := hfirst j other hother
  have harming : timer.arming ≠ other.arming := fun heq => hne (h.distinct hother hget heq.symm)
  rw [Timer.Precedes] at hnot ⊢
  omega

end Ranked

/-! ## The log -/

/-- The firings in a log. -/
def alarms (log : List Entry) : List Alarm := log.filterMap Entry.alarm?

theorem alarms_append (first second : List Entry) :
    alarms (first ++ second) = alarms first ++ alarms second := List.filterMap_append

/-- What a log says of the order of firings, with the timers that are live after it. -/
structure Ordered (log : List Entry) (t : Timers) : Prop where
  ranked : Ranked t
  armings : t.armings = log.countP Entry.isArming
  live : ∀ id timer, t.live.get? id = some timer → .armed id timer ∈ log
  numbered : ∀ k id timer, log[k]? = some (.armed id timer) →
    timer.arming = (log.take k).countP Entry.isArming
  fired : ∀ k a, log[k]? = some (.fired a) → .armed a.firing.id a.timer ∈ log.take k
  order : (alarms log).Pairwise fun a b => a.timer.Precedes b.timer
  /-- What is live comes after what has fired. -/
  ahead : ∀ a ∈ alarms log, ∀ id timer, t.live.get? id = some timer → a.timer.Precedes timer
  past : ∀ a ∈ alarms log, a.timer.due ≤ t.now ∧ a.timer.arming < t.armings

/-- The last place of a list and the places before it. -/
theorem getElem?_concat_cases {α : Type} {l : List α} {x y : α} {k : Nat}
    (hget : (l ++ [x])[k]? = some y) :
    (l[k]? = some y ∧ (l ++ [x]).take k = l.take k) ∨ (x = y ∧ (l ++ [x]).take k = l) := by
  by_cases hk : k < l.length
  · rw [List.getElem?_append_left hk] at hget
    exact .inl ⟨hget, List.take_append_of_le_length (Nat.le_of_lt hk)⟩
  · have hle := Nat.le_of_not_lt hk
    rw [List.getElem?_append_right hle] at hget
    obtain ⟨hlt, hxy⟩ := List.getElem?_eq_some_iff.1 hget
    have hlast : k = l.length := by
      rw [List.length_singleton] at hlt
      omega
    refine .inr ⟨by simpa using hxy, ?_⟩
    rw [hlast, List.take_left]

namespace Ordered

variable {log : List Entry} {t u : Timers} {id : Nat} {timer : Timer}

theorem start : Ordered [] empty where
  ranked := .empty
  armings := rfl
  live := nofun
  numbered := nofun
  fired := nofun
  order := .nil
  ahead := nofun
  past := nofun

/-- Timers go, or time passes. -/
theorem mono (h : Ordered log t)
    (hkept : ∀ id timer, u.live.get? id = some timer → t.live.get? id = some timer)
    (hnow : t.now ≤ u.now) (harmings : u.armings = t.armings) (hnext : u.nextId = t.nextId) :
    Ordered log u where
  ranked := h.ranked.mono hkept hnow harmings hnext
  armings := harmings.trans h.armings
  live id timer hget := h.live id timer (hkept id timer hget)
  numbered := h.numbered
  fired := h.fired
  order := h.order
  ahead a hmem id timer hget := h.ahead a hmem id timer (hkept id timer hget)
  past a hmem := ⟨Nat.le_trans (h.past a hmem).1 hnow, harmings ▸ (h.past a hmem).2⟩

theorem did (h : Ordered log t) (d : Queue.Deed) : Ordered (log ++ [.did d]) t := by
  have halarms : alarms (log ++ [.did d]) = alarms log := by
    rw [alarms_append]
    exact List.append_nil _
  refine ⟨h.ranked, ?_, fun id timer hget => List.mem_append_left _ (h.live id timer hget), ?_, ?_,
    halarms ▸ h.order, halarms ▸ h.ahead, halarms ▸ h.past⟩
  · rw [List.countP_append]
    exact h.armings
  · intro k id timer hget
    rcases getElem?_concat_cases hget with ⟨hold, htake⟩ | ⟨hlast, -⟩
    · rw [htake]
      exact h.numbered k id timer hold
    · cases hlast
  · intro k a hget
    rcases getElem?_concat_cases hget with ⟨hold, htake⟩ | ⟨hlast, -⟩
    · rw [htake]
      exact h.fired k a hold
    · cases hlast

/-- A timer is armed, and is not due before now. -/
theorem arm (h : Ordered log t) (hranked : Ranked u)
    (hlive : ∀ j, u.live.get? j = if j = id then some timer else t.live.get? j)
    (hdue : t.now ≤ timer.due) (harming : timer.arming = t.armings) (hnow : u.now = t.now)
    (harmings : u.armings = t.armings + 1) : Ordered (log ++ [.armed id timer]) u := by
  have halarms : alarms (log ++ [.armed id timer]) = alarms log := by
    rw [alarms_append]
    exact List.append_nil _
  refine ⟨hranked, ?_, ?_, ?_, ?_, halarms ▸ h.order, halarms ▸ ?_, halarms ▸ ?_⟩
  · rw [List.countP_append, harmings, h.armings]
    rfl
  · intro j other hget
    rcases get?_cases hlive hget with ⟨hold, -⟩ | ⟨rfl, rfl⟩
    · exact List.mem_append_left _ (h.live j other hold)
    · exact List.mem_append_right _ List.mem_cons_self
  · intro k j other hget
    rcases getElem?_concat_cases hget with ⟨hold, htake⟩ | ⟨hlast, htake⟩
    · rw [htake]
      exact h.numbered k j other hold
    · cases hlast
      rw [htake, harming, h.armings]
  · intro k a hget
    rcases getElem?_concat_cases hget with ⟨hold, htake⟩ | ⟨hlast, -⟩
    · rw [htake]
      exact h.fired k a hold
    · cases hlast
  · intro a hmem j other hget
    rcases get?_cases hlive hget with ⟨hold, -⟩ | ⟨-, rfl⟩
    · exact h.ahead a hmem j other hold
    · have hpast := h.past a hmem
      rw [Timer.Precedes]
      omega
  · intro a hmem
    have hpast := h.past a hmem
    omega

/-- A timer fires that precedes all others. -/
theorem fire (h : Ordered log t) (hget : t.live.get? id = some timer)
    (hfirst : ∀ j other, t.live.get? j = some other → ¬other.Precedes timer)
    {time : Nat} (hnow : t.now ≤ time) (hdue : timer.due ≤ time) :
    Ordered (log ++ [.fired ⟨⟨time, id⟩, timer⟩]) (t.without id time) := by
  have halarms : alarms (log ++ [.fired ⟨⟨time, id⟩, timer⟩]) =
      alarms log ++ [⟨⟨time, id⟩, timer⟩] := alarms_append _ _
  have hkept : ∀ j other, (t.without id time).live.get? j = some other →
      t.live.get? j = some other := fun j other hother => (get?_of_without hother).1
  refine ⟨h.ranked.mono hkept hnow rfl rfl, ?_,
    fun j other hother => List.mem_append_left _ (h.live j other (hkept j other hother)),
    ?_, ?_, ?_, ?_, ?_⟩
  · rw [List.countP_append]
    exact h.armings
  · intro k j other hother
    rcases getElem?_concat_cases hother with ⟨hold, htake⟩ | ⟨hlast, -⟩
    · rw [htake]
      exact h.numbered k j other hold
    · cases hlast
  · intro k a hother
    rcases getElem?_concat_cases hother with ⟨hold, htake⟩ | ⟨hlast, htake⟩
    · rw [htake]
      exact h.fired k a hold
    · cases hlast
      rw [htake]
      exact h.live id timer hget
  · rw [halarms, List.pairwise_append]
    refine ⟨h.order, List.pairwise_singleton _ _, fun a hmem b hb => ?_⟩
    cases List.mem_singleton.1 hb
    exact h.ahead a hmem id timer hget
  · intro a hmem j other hother
    rw [halarms] at hmem
    obtain ⟨hold, hne⟩ := get?_of_without hother
    rcases List.mem_append.1 hmem with hmem | hmem
    · exact h.ahead a hmem j other hold
    · cases List.mem_singleton.1 hmem
      exact h.ranked.precedes hget hfirst hold hne
  · intro a hmem
    rw [halarms] at hmem
    rcases List.mem_append.1 hmem with hmem | hmem
    · exact ⟨Nat.le_trans (h.past a hmem).1 hnow, (h.past a hmem).2⟩
    · cases List.mem_singleton.1 hmem
      exact ⟨hdue, h.ranked.below hget⟩

theorem move {entries : List Entry} (h : Ordered log t) (hmove : Move t entries u) :
    Ordered (log ++ entries) u := by
  have hranked := h.ranked.move hmove
  cases hmove with
  | pass hkept hnow harmings hnext =>
      rw [List.append_nil]
      exact h.mono hkept hnow harmings hnext
  | did d => exact h.did d
  | @create _ timer hlive hdue harming hnow harmings hnext =>
      exact h.arm hranked hlive (by omega) harming hnow harmings
  | fire hget honce hfirst => exact h.fire hget hfirst (Nat.le_max_left _ _) (Nat.le_max_right _ _)
  | @refire _ id timer hget hrepeats hfirst hlive hnow harmings hnext =>
      -- the timer is taken out when it fires, and then armed again
      have hfired := h.fire hget hfirst (Nat.le_max_left t.now timer.due) (Nat.le_max_right _ _)
      have hlive' : ∀ j, u.live.get? j =
          if j = id then some (t.again timer (max t.now timer.due))
          else (t.without id (max t.now timer.due)).live.get? j := fun j => by
        rw [hlive, get?_without]
        split <;> rfl
      have hlater := now_le_nextDue timer (max t.now timer.due)
      have harmed := hfired.arm hranked hlive' hlater rfl hnow harmings
      rw [List.append_assoc] at harmed
      exact harmed

end Ordered
end Timers

/-! ## A run -/

namespace Clockwork

open Timers

theorem ordered_log (q : Queue) (steps : List Step) :
    Ordered ((⟨.empty, q⟩ : Clockwork).log steps) ((⟨.empty, q⟩ : Clockwork).walk steps).timers :=
  (moves_log steps ⟨.empty, q⟩).preserve (motive := Ordered) Ordered.move .start

/-- **Timers fire in the order of their due times.**  Take any run from the start, in which timers are created
and cancelled, anything is done to the queue, and the clock goes on or jumps.  The log has all that happens:
what it says of the queue is all that becomes of it, every live timer is in it as it was armed, the number of
an arming is the count of the armings before it, and a timer fires as it was armed before.

Over the whole log the due times of the firings ascend, and of equal due times the numbers of the armings. -/
theorem firings_in_order (q : Queue) (steps : List Step) :
    let w : Clockwork := ⟨.empty, q⟩
    let log := w.log steps
    (w.walk steps).queue = (q.performAll (log.filterMap Entry.deed?)).2 ∧
    (∀ id timer, (w.walk steps).timers.live.get? id = some timer → .armed id timer ∈ log) ∧
    (∀ k id timer, log[k]? = some (.armed id timer) →
      timer.arming = (log.take k).countP Entry.isArming) ∧
    (∀ k a, log[k]? = some (.fired a) → .armed a.firing.id a.timer ∈ log.take k) ∧
    (log.filterMap Entry.alarm?).Pairwise fun a b =>
      a.timer.due < b.timer.due ∨ a.timer.due = b.timer.due ∧ a.timer.arming < b.timer.arming := by
  intro w log
  have h : Ordered log (w.walk steps).timers := ordered_log q steps
  exact ⟨queue_log steps w, h.live, h.numbered, h.fired, h.order⟩

/-- The clock jumps to where an interval is due again, over the due time of another timer.  The other timer
fires in between, though the interval has fired at the same time before it. -/
example : (alarms ((⟨.empty, .empty⟩ : Clockwork).log
    [.act (.create 10 true), .act (.create 15 false), .act (.jump 20)])).map
      (fun a => (a.firing.time, a.firing.id, a.timer.due, a.timer.arming)) =
    [(20, 1, 10, 0), (20, 2, 15, 1), (20, 1, 20, 2)] := by
  decide +kernel

end Clockwork
end ScriptHost
