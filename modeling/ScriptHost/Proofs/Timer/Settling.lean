import ScriptHost.Proofs.Timer.Order
import ScriptHost.Proofs.Timer.Waiting

/-!
# Settling

While some live timer is due, all that are due fire, in rounds, and those that repeat are armed again.  Every
firing takes a timer out or moves it on by at least a millisecond, so this ends in whatever order timers fire
(`wellFounded_firesBy`).  A timer that is armed again is not due before now, and is due now only if its new
due time is exactly now, so that it fires once more: two rounds are enough at any one time
(`settle_eq_rounds`).

Over a run, a timer that fires again repeats, and it fires at most twice at one time (`settling_ends`).
-/

namespace ScriptHost

open Ready (Queue)

/-- When a timer may be due after it has fired: later or, if that is when it is due again, at the same time. -/
def Alarm.Allows (a : Alarm) (due : Nat) : Prop :=
  a.firing.time < due ∨ due = a.firing.time ∧ a.timer.due + a.timer.delay = a.firing.time

/-- What allows a due time allows any later one. -/
theorem Alarm.Allows.later {a : Alarm} {due due' : Nat} (h : a.Allows due) (hlt : due < due') :
    a.Allows due' := by
  rw [Alarm.Allows] at h ⊢
  omega

namespace Timers

variable {t u : Timers} {limit : Nat}

/-! ## Termination -/

/-- Some live timer that is due by a limit fires. -/
def FiresBy (limit : Nat) (t u : Timers) : Prop :=
  ∃ q id timer time, t.live.get? id = some timer ∧ timer.due ≤ limit ∧ u = (t.fireAt q id time).1

/-- There is no endless sequence of firings by a limit, in whatever order the timers fire. -/
theorem wellFounded_firesBy (limit : Nat) : WellFounded fun u t => FiresBy limit t u := by
  refine Subrelation.wf ?_ (measure (slack · limit)).wf
  rintro u t ⟨q, id, timer, time, hget, hdue, rfl⟩
  exact slack_fireAt_lt ((Table.get?_eq_some_iff _ _ _).1 hget) hdue

/-! ## One firing -/

theorem due_lt_nextDue {timer : Timer} (hrepeats : timer.repeating = true) (time : Nat) :
    timer.due < nextDue timer time := by
  have hpos := timer.delay_pos hrepeats
  rw [nextDue]
  split <;> omega

theorem firstDue_eq_none (hlater : ∀ id timer, t.live.get? id = some timer → limit < timer.due) :
    t.firstDue limit = none := by
  cases hfirst : t.firstDue limit with
  | none => rfl
  | some e =>
      have hdue := hlater e.1 e.2 (isLive_of_firstDue hfirst)
      exact absurd (firstDue_spec hfirst).2 (Nat.not_le_of_lt hdue)

theorem firstDue_eq_some {id : Nat} {timer : Timer} (hget : t.live.get? id = some timer)
    (hdue : timer.due ≤ limit)
    (hfirst : ∀ j other, t.live.get? j = some other → other.due ≤ limit → j ≠ id →
      timer.Precedes other) : t.firstDue limit = some (id, timer) := by
  cases hbest : t.firstDue limit with
  | none => exact absurd (due_of_firstDue_eq_none hbest hget) (Nat.not_lt_of_le hdue)
  | some best =>
      obtain ⟨j, other⟩ := best
      have hother := isLive_of_firstDue hbest
      by_cases hj : j = id
      · rw [hj, hget] at hother
        rw [hj, Option.some.inj hother]
      · exact absurd (hfirst j other hother (firstDue_spec hbest).2 hj) (not_precedes_firstDue hbest hget)

/-- What is live after a firing is another timer, or the one that has fired, armed again. -/
theorem get?_fireAt_cases {q : Queue} {id j time : Nat} {other : Timer}
    (hother : (t.fireAt q id time).1.live.get? j = some other) :
    (t.live.get? j = some other ∧ j ≠ id) ∨
      (j = id ∧ ∃ timer, t.live.get? id = some timer ∧ timer.repeating = true ∧
        other = t.again timer time) := by
  cases hget : t.live.get? id with
  | none =>
      simp only [fireAt, fire, rearm, hget] at hother
      refine .inl ⟨hother, fun hj => ?_⟩
      rw [hj, hget] at hother
      cases hother
  | some timer =>
      cases hrep : timer.repeating with
      | false =>
          rw [fst_fireAt_of_once hget hrep] at hother
          exact .inl (get?_of_without hother)
      | true =>
          rcases get?_cases (fst_fireAt_of_repeating hget hrep q time).2 hother with hold | ⟨hj, hagain⟩
          · exact .inl hold
          · exact .inr ⟨hj, timer, rfl, hrep, hagain⟩

/-! ## Rounds -/

/-- The live timers that are due now, in the order in which they fire. -/
def dueInOrder (t : Timers) : List (Nat × Timer) :=
  (t.live.entries.filter (·.2.due ≤ t.now)).mergeSort fun a b => !firesBefore b.2 a.2

/-- Fire some timers at a time, one after the other. -/
def fireAll (time : Nat) (world : Timers × Queue) (es : List (Nat × Timer)) : Timers × Queue :=
  es.foldl (fun world e => world.1.fireAt world.2 e.1 time) world

/-- One round: every timer that is due when it begins fires, if it is still live. -/
def round (t : Timers) (q : Queue) : Timers × Queue := fireAll t.now (t, q) t.dueInOrder

theorem mem_dueInOrder {e : Nat × Timer} :
    e ∈ t.dueInOrder ↔ t.live.get? e.1 = some e.2 ∧ e.2.due ≤ t.now := by
  rw [dueInOrder, List.mem_mergeSort, List.mem_filter, Table.get?_eq_some_iff, decide_eq_true_eq]

theorem mem_dueInOrder_or_later {id : Nat} {timer : Timer} (hget : t.live.get? id = some timer) :
    (id, timer) ∈ t.dueInOrder ∨ t.now < timer.due :=
  (Nat.lt_or_ge t.now timer.due).symm.imp_left fun hdue => mem_dueInOrder.2 ⟨hget, hdue⟩

/-- Where the timers stand in the middle of a round.  Those that still have to fire precede everything else
that is due. -/
structure Midway (t : Timers) (rest : List (Nat × Timer)) : Prop where
  ranked : Ranked t
  sorted : rest.Pairwise fun e f => e.2.Precedes f.2
  due : ∀ e ∈ rest, t.live.get? e.1 = some e.2 ∧ e.2.due ≤ t.now
  others : ∀ id timer, t.live.get? id = some timer → timer.due ≤ t.now →
    (id, timer) ∈ rest ∨ ∀ e ∈ rest, e.2.Precedes timer

theorem Ranked.sorted_dueInOrder (h : Ranked t) : t.dueInOrder.Pairwise fun e f => e.2.Precedes f.2 := by
  have hsorted : t.dueInOrder.Pairwise fun e f => !firesBefore f.2 e.2 := by
    refine List.pairwise_mergeSort (fun e f g hef hfg => ?_) (fun e f => ?_) _
    · rw [Bool.not_eq_true', ← Bool.not_eq_true, firesBefore_iff, Timer.Precedes] at hef hfg ⊢
      omega
    · rw [Bool.or_eq_true, Bool.not_eq_true', Bool.not_eq_true', ← Bool.not_eq_true,
        ← Bool.not_eq_true, firesBefore_iff, firesBefore_iff, Timer.Precedes, Timer.Precedes]
      omega
  have hkeys : t.dueInOrder.Pairwise fun e f => e.1 ≠ f.1 := by
    have hnodup : ((t.live.entries.filter (·.2.due ≤ t.now)).map (·.1)).Nodup :=
      t.live.nodup_keys.sublist (List.filter_sublist.map _)
    have hperm : (t.dueInOrder.map (·.1)).Perm
        ((t.live.entries.filter (·.2.due ≤ t.now)).map (·.1)) := (List.mergeSort_perm _ _).map _
    exact List.pairwise_map.1 (hperm.nodup_iff.2 hnodup)
  refine (hsorted.and hkeys).imp_of_mem fun {e f} he hf hef => ?_
  have hnot := hef.1
  have harming : e.2.arming ≠ f.2.arming := fun heq =>
    hef.2 (h.distinct (mem_dueInOrder.1 he).1 (mem_dueInOrder.1 hf).1 heq)
  rw [Bool.not_eq_true', ← Bool.not_eq_true, firesBefore_iff, Timer.Precedes] at hnot
  rw [Timer.Precedes]
  omega

theorem Midway.start (h : Ranked t) : Midway t t.dueInOrder where
  ranked := h
  sorted := h.sorted_dueInOrder
  due _ hmem := mem_dueInOrder.1 hmem
  others _ _ hget hdue := .inl (mem_dueInOrder.2 ⟨hget, hdue⟩)

namespace Midway

variable {e : Nat × Timer} {rest : List (Nat × Timer)}

theorem firstDue_eq (h : Midway t (e :: rest)) : t.firstDue t.now = some e := by
  obtain ⟨hget, hdue⟩ := h.due e List.mem_cons_self
  refine firstDue_eq_some hget hdue fun j other hother hdue' hne => ?_
  rcases h.others j other hother hdue' with hmem | hall
  · rcases List.mem_cons.1 hmem with rfl | hmem
    · exact absurd rfl hne
    · exact List.rel_of_pairwise_cons h.sorted hmem
  · exact hall e List.mem_cons_self

theorem fire (h : Midway t (e :: rest)) (q : Queue) : Midway (t.fireAt q e.1 t.now).1 rest := by
  obtain ⟨hget, hdue⟩ := h.due e List.mem_cons_self
  have hmove := move_fireAt h.firstDue_eq q
  rw [Nat.max_eq_left hdue] at hmove
  refine ⟨h.ranked.move hmove, h.sorted.of_cons, fun f hf => ?_, fun j other hother hdue' => ?_⟩
  · obtain ⟨hgetf, hduef⟩ := h.due f (List.mem_cons_of_mem _ hf)
    have hprecedes := List.rel_of_pairwise_cons h.sorted hf
    have hne : f.1 ≠ e.1 := fun heq => by
      rw [heq, hget] at hgetf
      rw [Option.some.inj hgetf, Timer.Precedes] at hprecedes
      omega
    rw [get?_fireAt_of_ne t q hne, now_fireAt]
    exact ⟨hgetf, hduef⟩
  · rw [now_fireAt] at hdue'
    rcases get?_fireAt_cases hother with ⟨hold, hne⟩ | ⟨rfl, timer, hget', -, rfl⟩
    · rcases h.others j other hold hdue' with hmem | hall
      · rcases List.mem_cons.1 hmem with rfl | hmem
        · exact absurd rfl hne
        · exact .inl hmem
      · exact .inr fun f hf => hall f (List.mem_cons_of_mem _ hf)
    · -- the timer is armed after all others, and not due before now
      refine .inr fun f hf => ?_
      obtain ⟨hgetf, hduef⟩ := h.due f (List.mem_cons_of_mem _ hf)
      have hlater := now_le_nextDue timer t.now
      have hbelow := h.ranked.below hgetf
      show f.2.due < nextDue timer t.now ∨ f.2.due = nextDue timer t.now ∧ f.2.arming < t.armings
      omega

/-- The rest of a round takes no time, and is the beginning of settling. -/
theorem fireAll_rest (rest : List (Nat × Timer)) : ∀ {t : Timers} (q : Queue), Midway t rest →
    Ranked (fireAll t.now (t, q) rest).1 ∧ (fireAll t.now (t, q) rest).1.now = t.now ∧
      (fireAll t.now (t, q) rest).1.run (fireAll t.now (t, q) rest).2 t.now = t.run q t.now := by
  induction rest with
  | nil => exact fun _ h => ⟨h.ranked, rfl, rfl⟩
  | cons e rest ih =>
      intro t q h
      -- what is next in the round is what settling fires first
      have hdue : max t.now e.2.due = t.now := Nat.max_eq_left (h.due e List.mem_cons_self).2
      have hstep := run_of_some h.firstDue_eq q
      rw [hdue] at hstep
      have hrest := ih (t.fireAt q e.1 t.now).2 (h.fire q)
      rw [now_fireAt] at hrest
      rw [hstep]
      exact hrest

end Midway

theorem round_spec (h : Ranked t) (q : Queue) :
    Ranked (t.round q).1 ∧ (t.round q).1.now = t.now ∧
      (t.round q).1.run (t.round q).2 t.now = t.run q t.now :=
  (Midway.start h).fireAll_rest t.dueInOrder q

/-- Where all that does not fire is due late enough, and all that fires will be, everything is. -/
theorem due_of_fireAll {time bound : Nat} (es : List (Nat × Timer)) : ∀ {t : Timers} {q : Queue},
    (∀ e ∈ es, e.2.repeating = true → bound ≤ nextDue e.2 time) →
    (∀ id timer, t.live.get? id = some timer → (id, timer) ∈ es ∨ bound ≤ timer.due) →
    ∀ id timer, (fireAll time (t, q) es).1.live.get? id = some timer → bound ≤ timer.due := by
  induction es with
  | nil => exact fun _ hlive id timer hget => (hlive id timer hget).resolve_left List.not_mem_nil
  | cons e es ih =>
      intro t q hnext hlive
      refine ih (q := (t.fireAt q e.1 time).2) (fun f hf => hnext f (List.mem_cons_of_mem _ hf)) ?_
      intro j other hother
      rcases get?_fireAt_cases hother with ⟨hold, hne⟩ | ⟨rfl, timer, hget, hrepeats, rfl⟩
      · rcases hlive j other hold with hmem | hlate
        · rcases List.mem_cons.1 hmem with rfl | hmem
          · exact absurd rfl hne
          · exact .inl hmem
        · exact .inr hlate
      · refine .inr ?_
        rcases hlive e.1 timer hget with hmem | hlate
        · exact hnext (e.1, timer) hmem hrepeats
        · exact Nat.le_trans hlate (due_le_nextDue timer time)

/-- After a round nothing is due before now. -/
theorem now_le_due_of_round (q : Queue) : ∀ id timer, (t.round q).1.live.get? id = some timer →
    t.now ≤ timer.due := by
  refine due_of_fireAll t.dueInOrder (fun e _ _ => now_le_nextDue e.2 t.now) fun id timer hget => ?_
  exact (mem_dueInOrder_or_later hget).imp_right Nat.le_of_lt

/-- Where nothing is due before now, nothing is due after a round. -/
theorem now_lt_due_of_round (hdue : ∀ id timer, t.live.get? id = some timer → t.now ≤ timer.due)
    (q : Queue) : ∀ id timer, (t.round q).1.live.get? id = some timer → t.now < timer.due := by
  refine due_of_fireAll t.dueInOrder (fun e he hrepeats => ?_) fun _ _ => mem_dueInOrder_or_later
  have hnow := hdue e.1 e.2 (mem_dueInOrder.1 he).1
  exact Nat.lt_of_le_of_lt hnow (due_lt_nextDue hrepeats t.now)

/-- Settling is two rounds, after which nothing is due. -/
theorem settle_eq_rounds (h : Ranked t) (q : Queue) :
    let once := t.round q
    let twice := once.1.round once.2
    t.settle q = twice ∧ twice.1.firstDue t.now = none := by
  intro once twice
  obtain ⟨hranked, hnow, hfirst⟩ : Ranked once.1 ∧ once.1.now = t.now ∧ _ := round_spec h q
  obtain ⟨-, -, hsecond⟩ := round_spec hranked once.2
  rw [hnow] at hsecond
  -- the first round leaves nothing overdue, and so the second leaves nothing due
  have hnone : twice.1.firstDue t.now = none := by
    refine firstDue_eq_none fun id timer hget => ?_
    rw [← hnow]
    refine now_lt_due_of_round (fun id timer hget => ?_) once.2 id timer hget
    rw [hnow]
    exact now_le_due_of_round q id timer hget
  refine ⟨?_, hnone⟩
  calc t.settle q
    _ = once.1.run once.2 t.now := hfirst.symm
    _ = twice.1.run twice.2 t.now := hsecond.symm
    _ = twice := run_of_none hnone _

/-! ## Firings of one timer -/

/-- What a log says of the firings of each timer. -/
structure Spaced (log : List Entry) (t : Timers) : Prop where
  ranked : Ranked t
  past : ∀ a ∈ alarms log, a.firing.id < t.nextId ∧ a.firing.time ≤ t.now
  /-- A timer that is live after it has fired repeats. -/
  next : ∀ a ∈ alarms log, ∀ timer, t.live.get? a.firing.id = some timer →
    a.timer.repeating = true ∧ a.Allows timer.due
  pairs : (alarms log).Pairwise fun a b => a.firing.id = b.firing.id →
    a.timer.repeating = true ∧ a.Allows b.timer.due ∧ b.timer.due ≤ b.firing.time

theorem allows_nextDue {id time : Nat} {timer : Timer} (hrepeats : timer.repeating = true) :
    Alarm.Allows ⟨⟨time, id⟩, timer⟩ (nextDue timer time) := by
  have hpos := timer.delay_pos hrepeats
  show time < nextDue timer time ∨ nextDue timer time = time ∧ timer.due + timer.delay = time
  rw [nextDue]
  split <;> omega

namespace Spaced

variable {log : List Entry} {id : Nat} {timer : Timer}

theorem start : Spaced [] empty := ⟨.empty, nofun, nofun, .nil⟩

/-- Nothing fires. -/
theorem quiet (h : Spaced log t) {entries : List Entry} (halarms : alarms entries = []) (hranked : Ranked u)
    (hnow : t.now ≤ u.now) (hnext : t.nextId ≤ u.nextId)
    (hlive : ∀ id timer, id < t.nextId → u.live.get? id = some timer → t.live.get? id = some timer) :
    Spaced (log ++ entries) u := by
  have hsame : alarms (log ++ entries) = alarms log := by
    rw [alarms_append, halarms, List.append_nil]
  refine ⟨hranked, ?_, ?_, hsame ▸ h.pairs⟩ <;> rw [hsame]
  · intro a hmem
    have hpast := h.past a hmem
    omega
  · exact fun a hmem timer hget => h.next a hmem timer (hlive _ _ (h.past a hmem).1 hget)

/-- A timer fires.  It may be armed again. -/
theorem fire (h : Spaced log t) {entries : List Entry} {time : Nat}
    (halarms : alarms entries = [⟨⟨time, id⟩, timer⟩]) (hranked : Ranked u)
    (hget : t.live.get? id = some timer) (htime : time = max t.now timer.due) (hnow : u.now = time)
    (hnext : u.nextId = t.nextId)
    (hlive : ∀ j other, u.live.get? j = some other → (t.live.get? j = some other ∧ j ≠ id) ∨
      (j = id ∧ timer.repeating = true ∧ other.due = nextDue timer time)) :
    Spaced (log ++ entries) u := by
  have hsame : alarms (log ++ entries) = alarms log ++ [⟨⟨time, id⟩, timer⟩] := by
    rw [alarms_append, halarms]
  have hdue : timer.due ≤ time := by omega
  refine ⟨hranked, ?_, ?_, ?_⟩ <;> rw [hsame]
  · intro a hmem
    rcases List.mem_append.1 hmem with hmem | hmem
    · have hpast := h.past a hmem
      omega
    · cases List.mem_singleton.1 hmem
      exact ⟨hnext ▸ h.ranked.issued hget, Nat.le_of_eq hnow.symm⟩
  · intro a hmem other hother
    rcases List.mem_append.1 hmem with hmem | hmem
    · -- what an earlier firing of the timer allows now it allows when the timer is due again
      rcases hlive _ other hother with ⟨hold, -⟩ | ⟨hid, hrepeats, hagain⟩
      · exact h.next a hmem other hold
      · obtain ⟨hrep, hallows⟩ := h.next a hmem timer (hid ▸ hget)
        exact ⟨hrep, hallows.later (hagain ▸ due_lt_nextDue hrepeats time)⟩
    · cases List.mem_singleton.1 hmem
      rcases hlive _ other hother with ⟨-, hne⟩ | ⟨-, hrepeats, hagain⟩
      · exact absurd rfl hne
      · exact ⟨hrepeats, hagain ▸ allows_nextDue hrepeats⟩
  · rw [List.pairwise_append]
    refine ⟨h.pairs, List.pairwise_singleton _ _, fun a hmem b hb hid => ?_⟩
    cases List.mem_singleton.1 hb
    obtain ⟨hrep, hallows⟩ := h.next a hmem timer (hid ▸ hget)
    exact ⟨hrep, hallows, hdue⟩

theorem move {entries : List Entry} (h : Spaced log t) (hmove : Move t entries u) :
    Spaced (log ++ entries) u := by
  have hranked := h.ranked.move hmove
  cases hmove with
  | pass hkept hnow harmings hnext =>
      exact h.quiet rfl hranked hnow (Nat.le_of_eq hnext.symm) fun id timer _ => hkept id timer
  | did => exact h.quiet rfl hranked (Nat.le_refl _) (Nat.le_refl _) fun _ _ _ hget => hget
  | create hlive hdue harming hnow harmings hnext =>
      refine h.quiet rfl hranked (Nat.le_of_eq hnow.symm) (by omega) fun id timer hid hget => ?_
      rwa [hlive, if_neg (Nat.ne_of_lt hid)] at hget
  | fire hget honce hfirst =>
      exact h.fire rfl hranked hget rfl rfl rfl fun j other hother => .inl (get?_of_without hother)
  | refire hget hrepeats hfirst hlive hnow harmings hnext =>
      refine h.fire rfl hranked hget rfl hnow hnext fun j other hother => ?_
      rcases get?_cases hlive hother with hold | ⟨hj, rfl⟩
      · exact .inl hold
      · exact .inr ⟨hj, hrepeats, rfl⟩

/-- No timer fires three times at one time. -/
theorem countP_le_two (h : Spaced log t) (f : Firing) :
    (alarms log).countP (fun a => a.firing = f) ≤ 2 := by
  rw [List.countP_eq_length_filter]
  have hall : ∀ a ∈ (alarms log).filter (fun a => a.firing = f), a.firing = f :=
    fun a hmem => by simpa using (List.mem_filter.1 hmem).2
  have hpairs := h.pairs.filter fun a => a.firing = f
  match hfired : (alarms log).filter (fun a => a.firing = f) with
  | [] | [_] | [_, _] => simp [hfired]
  | a :: b :: c :: rest =>
      -- the second firing uses up what is left of the time, and the third would need more
      rw [hfired] at hall hpairs
      have ha : a.firing = f := hall a (by simp)
      have hb : b.firing = f := hall b (by simp)
      have hc : c.firing = f := hall c (by simp)
      obtain ⟨-, hab, hbdue⟩ := List.rel_of_pairwise_cons hpairs List.mem_cons_self (by rw [ha, hb])
      obtain ⟨hrepeats, hbc, hcdue⟩ :=
        List.rel_of_pairwise_cons hpairs.of_cons List.mem_cons_self (by rw [hb, hc])
      have hpos := b.timer.delay_pos hrepeats
      rw [Alarm.Allows, ha] at hab
      rw [Alarm.Allows, hb] at hbc
      rw [hb] at hbdue
      rw [hc] at hcdue
      omega

end Spaced
end Timers

/-! ## A run -/

namespace Clockwork

open Timers

/-- The clock goes on, or jumps. -/
inductive Advance where
  | sleep (millis : Nat)
  | jump (millis : Nat)

namespace Advance

def act : Advance → Act
  | sleep millis => .sleep millis
  | jump millis => .jump millis

def millis : Advance → Nat
  | sleep millis | jump millis => millis

end Advance

theorem now_advance (w : Clockwork) (advance : Advance) :
    (w.act advance.act).timers.now = w.timers.now + advance.millis := by
  cases advance with
  | sleep => rfl
  | jump millis =>
      show (w.timers.jump w.queue millis).1.now = w.timers.now + millis
      rw [jump, settle_eq]

/-- When the clock has gone on nothing is left to fire. -/
theorem firstDue_advance (w : Clockwork) (advance : Advance) :
    (w.act advance.act).timers.firstDue (w.timers.now + advance.millis) = none := by
  cases advance with
  | sleep millis => exact firstDue_run w.timers w.queue _
  | jump millis => exact firstDue_run { w.timers with now := w.timers.now + millis } w.queue _

theorem spaced_log (q : Queue) (steps : List Step) :
    Spaced ((⟨.empty, q⟩ : Clockwork).log steps) ((⟨.empty, q⟩ : Clockwork).walk steps).timers :=
  (moves_log steps ⟨.empty, q⟩).preserve (motive := Spaced) Spaced.move .start

theorem walk_concat (w : Clockwork) (steps : List Step) (s : Step) :
    w.walk (steps ++ [s]) = (w.walk steps).step s := List.foldl_append

/-- **Settling ends, and leaves nothing overdue.**  Take any run from the start, and let the clock go on or jump.

No endless sequence of firings by any limit exists, in whatever order timers fire.  A jump to any time is two
rounds, each of which fires what is due when it begins, and then nothing is due; and while time passes the
clock jumps in the same way to where a timer is due next.

The log has all firings, also those of the steps before.  A timer that fires again repeats; it fires at most
twice at one time, and twice only if the time is exactly one delay after it was due.  When the clock has gone
on, every live timer is due after now, and within its delay. -/
theorem settling_ends (q : Queue) (steps : List Step) (advance : Advance) :
    let w := (⟨.empty, q⟩ : Clockwork).walk steps
    let after := w.act advance.act
    let log := (⟨.empty, q⟩ : Clockwork).log (steps ++ [.act advance.act])
    let fired := log.filterMap Entry.alarm?
    (∀ limit, WellFounded fun u t => FiresBy limit t u) ∧
    (∀ millis,
      let once := { w.timers with now := w.timers.now + millis }.round w.queue
      let twice := once.1.round once.2
      w.timers.jump w.queue millis = twice ∧ twice.1.firstDue (w.timers.now + millis) = none) ∧
    (∀ millis,
      (∀ id timer, w.timers.live.get? id = some timer → w.timers.now + millis ≤ timer.due) →
        w.timers.sleep w.queue millis = w.timers.jump w.queue millis) ∧
    after.queue = (q.performAll (log.filterMap Entry.deed?)).2 ∧
    (fired.Pairwise fun a b => a.firing.id = b.firing.id → a.timer.repeating = true) ∧
    (∀ f : Firing, fired.countP (·.firing = f) ≤ 2) ∧
    (fired.Pairwise fun a b => a.firing = b.firing →
      a.timer.due + a.timer.delay = a.firing.time ∧ b.timer.due = a.firing.time) ∧
    after.timers.now = w.timers.now + advance.millis ∧
    ∀ id timer, after.timers.live.get? id = some timer →
      after.timers.now < timer.due ∧ timer.due ≤ after.timers.now + timer.delay := by
  intro w after log fired
  have hwalk : (⟨.empty, q⟩ : Clockwork).walk (steps ++ [.act advance.act]) = after := walk_concat ..
  have hspaced : Spaced log after.timers := hwalk ▸ spaced_log q (steps ++ [.act advance.act])
  have hranked : Ranked w.timers := (spaced_log q steps).ranked
  have hnow : after.timers.now = w.timers.now + advance.millis := now_advance w advance
  refine ⟨wellFounded_firesBy, fun millis => ?_, fun millis => sleep_eq_jump w.timers w.queue, ?_, ?_,
    hspaced.countP_le_two, ?_, hnow, fun id timer hget => ⟨?_, hspaced.ranked.within hget⟩⟩
  · have hlater : Ranked { w.timers with now := w.timers.now + millis } :=
      hranked.mono (fun _ _ hget => hget) (Nat.le_add_right _ _) rfl rfl
    exact settle_eq_rounds hlater w.queue
  · rw [← hwalk]
    exact queue_log _ _
  · exact hspaced.pairs.imp fun h hid => (h hid).1
  · refine hspaced.pairs.imp fun {a b} h hsame => ?_
    obtain ⟨-, hallows, hdue⟩ := h (congrArg Firing.id hsame)
    rw [Alarm.Allows] at hallows
    rw [← hsame] at hdue
    omega
  · rw [hnow]
    exact due_of_firstDue_eq_none (firstDue_advance w advance) hget

/-- Twenty milliseconds after an interval of ten was created it fires for ten, and is due again now. -/
example : (alarms ((⟨.empty, .empty⟩ : Clockwork).log [.act (.create 10 true), .act (.jump 20)])).map
      (fun a => (a.firing.time, a.timer.due)) = [(20, 10), (20, 20)] := by
  decide +kernel

end Clockwork
end ScriptHost
