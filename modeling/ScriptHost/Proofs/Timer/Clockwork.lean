import ScriptHost.Proofs.Timer.Periods

/-!
# Intervals among everything else

Timers on an exact clock, and everything that can be done to them and to the queue that they fire into:
timers are created and cancelled, callbacks are enqueued, drained, discarded and cleared, time passes, and
the clock jumps.  `record` has all firings that come of a list of such acts, and `allCalls` all calls of
the queue; the queue is what those calls make of it (`queue_follow`).

An interval is not overdue between two acts (`Stands`), and nothing but its cancellation keeps it from
firing on time.
-/

namespace ScriptHost

open Ready (Callback Queue)

/-- Timers on an exact clock, with the queue that they fire into. -/
structure Clockwork where
  timers : Timers
  queue : Queue

namespace Clockwork

open Timers

/-- What can be done. -/
inductive Act where
  | create (delay : Int) (repeating : Bool)
  | cancel (id : Nat)
  | cancelAll
  | enqueue (c : Callback)
  | drain
  | discard (id : Nat)
  | clear
  /-- Fire what is due. -/
  | settle
  | sleep (millis : Nat)
  | jump (millis : Nat)

/-- Timers and queue after something has been done to them. -/
def ofPair (world : Timers × Queue) : Clockwork := ⟨world.1, world.2⟩

def act (w : Clockwork) : Act → Clockwork
  | .create delay repeating =>
      match w.timers.create delay repeating with
      | .ok (_, timers) => { w with timers }
      | .error _ => w
  | .cancel id => ofPair (w.timers.cancel w.queue id).2
  | .cancelAll => ofPair (w.timers.cancelAll w.queue).2
  | .enqueue c => { w with queue := (w.queue.enqueue c).2 }
  | .drain => { w with queue := w.queue.drain.2 }
  | .discard id => { w with queue := (w.queue.discard id).2 }
  | .clear => { w with queue := w.queue.clear.2 }
  | .settle => ofPair (w.timers.settle w.queue)
  | .sleep millis => ofPair (w.timers.sleep w.queue millis)
  | .jump millis => ofPair (w.timers.jump w.queue millis)

/-- The firings that come of it. -/
def firings (w : Clockwork) : Act → List Firing
  | .settle => w.timers.firings w.timers.now
  | .sleep millis => w.timers.firings (w.timers.now + millis)
  | .jump millis =>
      { w.timers with now := w.timers.now + millis }.firings (w.timers.now + millis)
  | _ => []

/-- One act after the other. -/
def follow (w : Clockwork) (acts : List Act) : Clockwork := acts.foldl act w

/-- The calls of the queue that an act makes. -/
def calls (w : Clockwork) : Act → List Queue.Call
  | .create _ _ => []
  | .cancel id => [.discard id]
  | .cancelAll => w.timers.live.keys.map .discard
  | .enqueue c => [.enqueue c]
  | .drain => [.drain]
  | .discard id => [.discard id]
  | .clear => [.clear]
  | .settle => (w.firings .settle).map Firing.call
  | .sleep millis => (w.firings (.sleep millis)).map Firing.call
  | .jump millis => (w.firings (.jump millis)).map Firing.call

/-- All firings, in their order. -/
def record : Clockwork → List Act → List Firing
  | _, [] => []
  | w, a :: acts => w.firings a ++ (w.act a).record acts

/-- All calls of the queue, in their order. -/
def allCalls : Clockwork → List Act → List Queue.Call
  | _, [] => []
  | w, a :: acts => w.calls a ++ (w.act a).allCalls acts

/-! ## The record has every firing -/

theorem discardAll_eq_follow (ids : List Nat) : ∀ q : Queue,
    discardAll q ids = (q.follow (ids.map .discard)).2 := by
  induction ids with
  | nil => exact fun _ => rfl
  | cons id ids ih => exact fun q => ih (q.discard id).2

/-- The calls are all that happens to the queue. -/
theorem queue_act (w : Clockwork) (a : Act) : (w.act a).queue = (w.queue.follow (w.calls a)).2 := by
  cases a with
  | create delay repeating =>
      rw [act]
      split <;> rfl
  | cancel | enqueue | drain | discard | clear => rfl
  | cancelAll => exact discardAll_eq_follow w.timers.live.keys w.queue
  | settle | sleep | jump => exact queue_run _ _ _

theorem queue_follow (acts : List Act) : ∀ w : Clockwork,
    (w.follow acts).queue = (w.queue.follow (w.allCalls acts)).2 := by
  induction acts with
  | nil => exact fun _ => rfl
  | cons a acts ih =>
      intro w
      rw [allCalls, Queue.follow_append, ← queue_act]
      exact ih (w.act a)

/-- Whether a firing of a timer is offered by a call. -/
def offersCall (id : Nat) : Queue.Call → Bool
  | .enqueue c => c.target = .timer id
  | _ => false

/-- Whether a firing of a timer is offered by an act itself, and not because the timer fires. -/
def Act.offers (id : Nat) : Act → Bool
  | .enqueue c => offersCall id (.enqueue c)
  | _ => false

theorem countP_map_call (id : Nat) (fs : List Firing) :
    (fs.map Firing.call).countP (offersCall id) = (timesOf id fs).length := by
  rw [timesOf, List.length_map, ← List.countP_eq_length_filter, List.countP_map]
  refine List.countP_congr fun f _ => ?_
  simp [offersCall, Firing.call]

theorem countP_calls (id : Nat) (w : Clockwork) (a : Act) :
    (w.calls a).countP (offersCall id) =
      (timesOf id (w.firings a)).length + if a.offers id then 1 else 0 := by
  cases a with
  | create | cancel | drain | discard | clear => rfl
  | cancelAll => exact (List.countP_map ..).trans (List.countP_eq_zero.2 fun _ _ => nofun)
  | enqueue c =>
      rw [calls, List.countP_singleton]
      exact (Nat.zero_add _).symm
  | settle | sleep | jump => exact countP_map_call id _

/-- A timer's firings are all the offers in its name, other than those that acts make themselves. -/
theorem countP_allCalls (id : Nat) (acts : List Act) : ∀ w : Clockwork,
    (w.allCalls acts).countP (offersCall id) =
      (timesOf id (w.record acts)).length + acts.countP (Act.offers id) := by
  induction acts with
  | nil => exact fun _ => rfl
  | cons a acts ih =>
      intro w
      rw [allCalls, List.countP_append, countP_calls, ih, record, timesOf_append,
        List.length_append, List.countP_cons]
      omega

/-! ## An interval among all that is done -/

/-- Numbers that have been given out stay so. -/
theorem nextId_le_act (w : Clockwork) (a : Act) : w.timers.nextId ≤ (w.act a).timers.nextId := by
  cases a with
  | create delay repeating =>
      rw [act]
      split
      · rename_i hcreate
        have hnext := (create_eq_ok hcreate).2.1
        dsimp only
        omega
      · exact Nat.le_refl _
  | settle | sleep => exact Nat.le_of_eq (nextId_run _ _ _).symm
  | jump millis =>
      exact Nat.le_of_eq
        (nextId_run { w.timers with now := w.timers.now + millis } w.queue _).symm
  | cancel | cancelAll | enqueue | drain | discard | clear => exact Nat.le_refl _

/-- A timer whose number has been given out and that is not live does not come back. -/
theorem kind?_act_of_none {w : Clockwork} {id : Nat} (hissued : id < w.timers.nextId)
    (hnone : w.timers.kind? id = none) (a : Act) : (w.act a).timers.kind? id = none := by
  cases a with
  | create delay repeating =>
      rw [act]
      split
      · rename_i hcreate
        obtain ⟨rfl, -, hkind⟩ := create_eq_ok hcreate
        dsimp only
        rw [hkind, if_neg (Nat.ne_of_lt hissued), hnone]
      · exact hnone
  | cancel other =>
      have hkind := kind?_remove w.timers other id
      rw [hnone, ite_self] at hkind
      exact hkind
  | cancelAll => rfl
  | settle | sleep => exact kind?_run_of_none hnone _ _
  | jump millis =>
      exact kind?_run_of_none (t := { w.timers with now := w.timers.now + millis }) hnone _ _
  | enqueue | drain | discard | clear => exact hnone

theorem kind?_follow_of_none (acts : List Act) : ∀ {w : Clockwork} {id : Nat}, id < w.timers.nextId →
    w.timers.kind? id = none → (w.follow acts).timers.kind? id = none := by
  induction acts with
  | nil => exact fun _ hnone => hnone
  | cons a acts ih =>
      intro w id hissued hnone
      exact ih (Nat.lt_of_lt_of_le hissued (w.nextId_le_act a)) (kind?_act_of_none hissued hnone a)

variable {start period count : Nat} {punctual : Prop} {timer : Timer} {w : Clockwork} {id : Nat}

/-- Where an interval stands between two acts.  It is not overdue. -/
structure Stands (start period count : Nat) (punctual : Prop) (w : Clockwork) (timer : Timer) :
    Prop where
  paced : Paced start period count punctual w.timers.now timer
  ahead : w.timers.now < timer.due

/-- Everything fires that is due by a limit, and the clock is set to it. -/
theorem Stands.run {t : Timers} (hget : t.live.get? id = some timer)
    (hpaced : Paced start period count punctual t.now timer) (q : Queue) {limit : Nat}
    (hle : t.now ≤ limit) :
    ∃ timer', (t.run q limit).1.live.get? id = some timer' ∧
      Stands start period (count + (timesOf id (t.firings limit)).length) punctual
        ⟨{ (t.run q limit).1 with now := limit }, (t.run q limit).2⟩ timer' ∧
      AllOnPace start period count punctual (timesOf id (t.firings limit)) := by
  obtain ⟨timer', hget', hpaced', hdue, htimes⟩ := Paced.run t q limit id hget hpaced
  exact ⟨timer', hget', ⟨hpaced'.wait (now_run_le q hle) fun _ => Nat.le_of_lt hdue, hdue⟩, htimes⟩

/-- Firing what is due takes no time. -/
theorem settle_eq (t : Timers) (q : Queue) :
    t.settle q = ({ (t.run q t.now).1 with now := t.now }, (t.run q t.now).2) := by
  have hnow : (t.run q t.now).1.now = t.now :=
    Nat.le_antisymm (now_run_le q (Nat.le_refl _)) (le_now_run q t.now)
  rw [settle]
  generalize t.run q t.now = world at hnow ⊢
  obtain ⟨⟨live, nextId, armings, now⟩, queue⟩ := world
  cases hnow
  rfl

/-- An interval that is live after an act is where it should be. -/
theorem Stands.act (hissued : id < w.timers.nextId) (hget : w.timers.live.get? id = some timer)
    (h : Stands start period count punctual w timer) {a : Act}
    (hjump : punctual → ∀ millis, a ≠ .jump millis) (hlive : (w.act a).timers.isLive id = true) :
    ∃ timer', (w.act a).timers.live.get? id = some timer' ∧
      Stands start period (count + (timesOf id (w.firings a)).length) punctual (w.act a) timer' ∧
      AllOnPace start period count punctual (timesOf id (w.firings a)) := by
  have hidle : ∀ {w' : Clockwork}, w'.timers.now = w.timers.now →
      Stands start period count punctual w' timer := fun hnow =>
    ⟨hnow ▸ h.paced, hnow ▸ h.ahead⟩
  cases a with
  | create delay repeating =>
      refine ⟨timer, ?_, hidle ?_, allOnPace_nil _ _ _ _⟩
      · rw [Clockwork.act]
        split
        · rename_i hcreate
          have hne := (create_eq_ok hcreate).1
          rw [get?_create hcreate (by omega), hget]
        · exact hget
      · rw [Clockwork.act]
        split
        · rename_i hcreate
          exact now_create hcreate
        · rfl
  | cancel other =>
      have hafter : ((w.act (.cancel other)).timers.live.get? id) =
          if id = other then none else w.timers.live.get? id := Table.get?_erase _ _ _
      by_cases hother : id = other
      · rw [if_pos hother] at hafter
        rw [isLive, Table.contains, hafter] at hlive
        cases hlive
      · rw [if_neg hother, hget] at hafter
        exact ⟨timer, hafter, hidle rfl, allOnPace_nil _ _ _ _⟩
  | cancelAll => cases hlive
  | enqueue | drain | discard | clear => exact ⟨timer, hget, hidle rfl, allOnPace_nil _ _ _ _⟩
  | settle =>
      rw [Clockwork.act, settle_eq]
      exact Stands.run hget h.paced w.queue (Nat.le_refl _)
  | sleep millis => exact Stands.run hget h.paced w.queue (Nat.le_add_right _ _)
  | jump millis =>
      -- the interval may be overdue now, so it is not punctual
      have hlater : Paced start period count punctual (w.timers.now + millis) timer :=
        h.paced.wait (Nat.le_add_right _ _) fun hpunctual => absurd rfl (hjump hpunctual millis)
      rw [Clockwork.act, jump, settle_eq]
      exact Stands.run (t := { w.timers with now := w.timers.now + millis }) hget hlater w.queue
        (Nat.le_refl _)

theorem Stands.follow (acts : List Act) : ∀ {w : Clockwork} {count : Nat} {timer : Timer},
    id < w.timers.nextId → w.timers.live.get? id = some timer →
    Stands start period count punctual w timer →
    (punctual → ∀ millis, .jump millis ∉ acts) → (w.follow acts).timers.isLive id = true →
    ∃ timer', Stands start period (count + (timesOf id (w.record acts)).length) punctual
        (w.follow acts) timer' ∧
      AllOnPace start period count punctual (timesOf id (w.record acts)) := by
  induction acts with
  | nil => exact fun _ _ h _ _ => ⟨_, h, allOnPace_nil _ _ _ _⟩
  | cons a acts ih =>
      intro w count timer hissued hget h hjump hlive
      have hissued' := Nat.lt_of_lt_of_le hissued (w.nextId_le_act a)
      have halive : (w.act a).timers.isLive id = true := by
        rw [← Bool.not_eq_false, ← kind?_eq_none_iff]
        intro hnone
        have hgone := (kind?_eq_none_iff _ _).1 (kind?_follow_of_none acts hissued' hnone)
        exact Bool.false_ne_true (hgone.symm.trans hlive)
      obtain ⟨next, hnext, hstands, htimes⟩ := h.act hissued hget
        (fun hpunctual millis heq => hjump hpunctual millis (heq ▸ List.mem_cons_self)) halive
      obtain ⟨last, hlast, hrest⟩ := ih hissued' hnext hstands
        (fun hpunctual millis hmem => hjump hpunctual millis (List.mem_cons_of_mem _ hmem)) hlive
      refine ⟨last, ?_, ?_⟩
      · rwa [record, timesOf_append, List.length_append, ← Nat.add_assoc]
      · rw [record, timesOf_append]
        exact htimes.append hrest

/-- An interval has fired at most once for each period that is over. -/
theorem Stands.count_le (h : Stands start period count punctual w timer) (hpos : 0 < period) :
    count ≤ (w.timers.now - start) / period := by
  have hreached := h.paced.reached
  exact (Nat.le_div_iff_mul_le hpos).2 (by omega)

/-- A punctual interval has missed none. -/
theorem Stands.count_eq (h : Stands start period count punctual w timer) (hpunctual : punctual) :
    (w.timers.now - start) / period = count := by
  have hreached := h.paced.reached
  have hahead := h.paced.exact_due hpunctual ▸ h.ahead
  exact Nat.div_eq_of_lt_le (by omega) (by omega)

/-- **Intervals do not drift.**  Take an interval that is created at some time, and is still live after
whatever has been done to the timers and to the queue since.  All that has happened to the queue are
the calls of these acts, and the offers among them in the name of the interval are its firings, at the
recorded times, unless an act has enqueued one itself.  The interval has fired at most once for each
period that is over, and never for the `k`-th time before `k` periods were over.

If the clock has not jumped, it has fired once for each period, exactly when the period was over. -/
theorem interval_keeps_time {w : Clockwork} {delay : Int} {id : Nat} {timers : Timers}
    (hcreate : w.timers.create delay true = .ok (id, timers)) (acts : List Act)
    (hlive : (follow { w with timers } acts).timers.isLive id = true) :
    let created : Clockwork := { w with timers }
    let elapsed := (created.follow acts).timers.now - w.timers.now
    let period := max 1 delay.toNat
    let times := timesOf id (created.record acts)
    (created.follow acts).queue = (w.queue.follow (created.allCalls acts)).2 ∧
    (created.allCalls acts).countP (offersCall id) = times.length + acts.countP (Act.offers id) ∧
    times.length ≤ elapsed / period ∧
    (∀ k time, times[k]? = some time → w.timers.now + (k + 1) * period ≤ time) ∧
    ((∀ millis, .jump millis ∉ acts) →
      times = (List.range (elapsed / period)).map fun k => w.timers.now + (k + 1) * period) := by
  intro created elapsed period times
  have hissued : id < timers.nextId := by
    obtain ⟨rfl, hnext, -⟩ := create_eq_ok hcreate
    omega
  obtain ⟨timer, hget, hpaced, hahead⟩ :=
    paced_of_create hcreate (∀ millis, .jump millis ∉ acts)
  have hstart : Stands w.timers.now period 0 (∀ millis, .jump millis ∉ acts) created timer :=
    ⟨hpaced, hahead⟩
  obtain ⟨last, hstands, htimes⟩ := Stands.follow acts hissued hget hstart (fun hsteady => hsteady) hlive
  rw [Nat.zero_add] at hstands
  refine ⟨queue_follow acts created, countP_allCalls id acts created,
    hstands.count_le (Nat.lt_of_lt_of_le Nat.one_pos (Nat.le_max_left _ _)), ?_, ?_⟩
  · intro k time htime
    have hpace := (htimes k time htime).1
    rwa [Nat.zero_add] at hpace
  · intro hsteady
    rw [show elapsed / period = _ from hstands.count_eq hsteady]
    exact htimes.eq_map hsteady

/-- An interval of ten milliseconds, beside a timer that fires once, over 35 milliseconds. -/
theorem interval_fires_three_times :
    let created := act ⟨.empty, .empty⟩ (.create 10 true)
    let acts : List Act := [.sleep 25, .create 4 false, .drain, .sleep 10]
    (created.follow acts).timers.isLive 1 = true ∧ timesOf 1 (created.record acts) = [10, 20, 30] := by
  intro created acts
  have hcreate : Timers.empty.create 10 true = .ok (1, created.timers) := rfl
  have hlive : (created.follow acts).timers.isLive 1 = true := by decide +kernel
  have hnow : (created.follow acts).timers.now = 35 := by decide +kernel
  obtain ⟨-, -, -, -, hexact⟩ :=
    interval_keeps_time (w := ⟨.empty, .empty⟩) hcreate acts hlive
  refine ⟨hlive, (hexact (by simp [acts])).trans ?_⟩
  exact congrArg (fun now => (List.range ((now - 0) / 10)).map fun k => 0 + (k + 1) * 10) hnow

end Clockwork
end ScriptHost
