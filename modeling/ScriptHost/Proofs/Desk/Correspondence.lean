import ScriptHost.Proofs.Desk.Standing

/-!
# The correspondence is kept

Each step of guest code and of the services keeps `Corresponds`: what guest code asks the desk for,
the wake-ups of timers, the stages of operations, and the two ends of a pass, which drains the queue
into a batch and then looks the closures of the batch up one by one.
-/

namespace ScriptHost.Desk.Corresponds

open Ready (Callback Closures Queue Target occurrences)
open Network (Coordinator)

variable {F : Type} {s : Services} {closures : Closures F} {batch : List Callback}

/-! ## Timers -/

/-- The wake-up of a timer that fires once moves its one use from the timer to the queue.  An
interval keeps its closure, however many of its firings wait. -/
theorem fire (h : Corresponds s closures batch) (id time : Nat) :
    Corresponds
      { s with
        timers := (s.timers.fireAt s.queue id time).1
        queue := (s.timers.fireAt s.queue id time).2 } closures batch := by
  have hqueue : ∀ t, (s.timers.fireAt s.queue id time).2.count t =
      if t = .timer id ∧ s.timers.isLive id = true then 1 else s.queue.count t := by
    intro t
    rw [Timers.queue_fireAt]
    by_cases hlive : s.timers.isLive id = true
    · simp only [hlive, if_true, and_true]
      exact h.indexed.count_enqueue_firing id t
    · simp [hlive]
  refine h.change (.timer id) ?_ h.numbered ?_ ?_
  · show (s.timers.fireAt s.queue id time).2.Indexed
    rw [Timers.queue_fireAt]
    split
    · exact h.indexed.enqueue_firing id
    · exact h.indexed
  · intro t ht
    refine standing_congr ?_ rfl ?_ (fun _ _ => rfl) ?_ rfl
    · cases t with
      | timer j => exact congrArg (decide <| j < ·) (Timers.nextId_fireAt _ _ _ _)
      | completion j => rfl
    · rintro j rfl
      refine (Timers.kind?_fireAt _ _ _ _ _).trans (if_neg ?_)
      rintro ⟨rfl, -⟩
      exact ht rfl
    · exact (hqueue t).trans (if_neg fun hboth => ht hboth.1)
  · -- For a live timer without a closure, or with one of the other sort, there is nothing to show.
    rw [standing_timer, standing_timer]
    dsimp only
    rw [Timers.nextId_fireAt, Timers.kind?_fireAt, hqueue, Timers.isLive_eq]
    cases s.timers.kind? id with
    | none => simp
    | some repeating =>
        cases repeating with
        | true =>
            cases closures.flag? (.timer id) with
            | none => simp [Standing.Sound]
            | some again => cases again <;> simp [Standing.Sound]
        | false =>
            cases closures.flag? (.timer id) with
            | none => simp [Standing.Sound]
            | some again =>
                cases again with
                | false =>
                    simp [Standing.Sound]
                    omega
                | true => simp [Standing.Sound]

theorem wakeTimer (h : Corresponds s closures batch) (id : Nat) :
    Corresponds (s.wakeTimer id) closures batch := by
  unfold Services.wakeTimer
  split
  · exact h.fire id s.now
  · exact h

theorem elapse (h : Corresponds s closures batch) (time : Nat) :
    Corresponds { s with timers.now := time } closures batch :=
  h.same h.indexed h.numbered fun _ => rfl

/-- A new timer is registered with its closure. -/
theorem create (h : Corresponds s closures batch) {delay : Int} {repeating : Bool} {id : Nat}
    {timers : Timers} (hcreate : s.timers.create delay repeating = .ok (id, timers)) (value : F) :
    Corresponds { s with timers } (closures.insertTimer id value repeating) batch := by
  obtain ⟨rfl, hnext, hkind⟩ := Timers.create_eq_ok hcreate
  refine h.change (.timer s.timers.nextId) h.indexed h.numbered ?_ ?_
  · intro t ht
    refine standing_congr ?_ ?_ ?_ (fun _ _ => rfl) rfl rfl
    · cases t with
      | timer j =>
          have hj : j ≠ s.timers.nextId := fun heq => ht (by rw [heq])
          refine decide_eq_decide.2 ?_
          show j < timers.nextId ↔ j < s.timers.nextId
          omega
      | completion j => rfl
    · rw [Closures.flag?_insertTimer, if_neg ht]
    · rintro j rfl
      exact (hkind j).trans (if_neg fun heq => ht (by rw [heq]))
  · -- The number is new, so nothing stands under it yet.
    intro hs
    obtain ⟨-, hqueued, hdrained⟩ := hs.of_not_issued (decide_eq_false (Nat.lt_irrefl _))
    have hcount : s.queue.count (.timer s.timers.nextId) = 0 := hqueued
    have hbatch : occurrences batch (.timer s.timers.nextId) = 0 := hdrained
    rw [standing_timer, Closures.flag?_insertTimer, if_pos rfl, hbatch]
    show Standing.Sound _ ⟨_, _, timers.kind? _ = some true, if (timers.kind? _).isSome then 1 else 0,
      s.queue.count _, _⟩
    rw [hkind, if_pos rfl, hcount, hnext]
    cases repeating <;> simp [Standing.Sound]

/-- A timer is cancelled and its closure released. -/
theorem clear (h : Corresponds s closures batch) (id : Nat) :
    Corresponds (s.cancelTimer id).2 (closures.release (.timer id)).2 batch := by
  refine h.change (.timer id) (h.indexed.discard id) h.numbered ?_ ?_
  · intro t ht
    refine standing_congr ?_ ?_ ?_ (fun _ _ => rfl) ?_ rfl
    · cases t with
      | timer j => rfl
      | completion j => exact congrArg (decide <| j < ·) (Closures.nextCompletion_release _ _)
    · rw [Closures.flag?_release, if_neg ht]
    · rintro j rfl
      exact (Timers.kind?_remove _ _ _).trans (if_neg fun heq => ht (by rw [heq]))
    · exact (h.indexed.count_discard id t).trans (if_neg ht)
  · intro hs
    have hclosure : (closures.release (.timer id)).2.flag? (.timer id) = none := by
      rw [Closures.flag?_release, if_pos rfl]
    refine (Standing.sound_iff_of_none hclosure).2 ⟨?_, ?_, ?_⟩
    · show (if (s.timers.remove id).2.isLive id then 1 else 0) = 0
      rw [Timers.isLive_eq, Timers.kind?_remove, if_pos rfl]
      rfl
    · exact (h.indexed.count_discard id _).trans (if_pos rfl)
    · -- What a pass has drained already is looked up in vain.
      intro hpos
      refine ⟨⟨id, rfl⟩, Bool.of_not_eq_false fun hissued => ?_⟩
      exact Nat.ne_of_gt hpos (hs.of_not_issued hissued).2.2

/-! ## Operations -/

/-- A closure is registered for the completion of a new operation. -/
theorem start (h : Corresponds s closures batch) (request : Network.Request) (value : F) :
    Corresponds (s.startOperation request closures.nextCompletion)
      (closures.insertCompletion value).2 batch := by
  refine h.change (.completion closures.nextCompletion) h.indexed (h.numbered.start _ _) ?_ ?_
  · intro t ht
    refine standing_congr ?_ ?_ (fun _ _ => rfl) ?_ rfl rfl
    · cases t with
      | timer j => rfl
      | completion j =>
          have hj : j ≠ closures.nextCompletion := fun heq => ht (by rw [heq])
          refine decide_eq_decide.2 ?_
          show j < closures.nextCompletion + 1 ↔ j < closures.nextCompletion
          omega
    · rw [Closures.flag?_insertCompletion, if_neg ht]
    · rintro j rfl
      refine (h.numbered.inFlight_start _ _ j).trans ?_
      rw [if_neg fun heq => ht (by rw [heq]), Nat.add_zero]
  · intro hs
    obtain ⟨hsources, hqueued, hdrained⟩ := hs.of_not_issued (decide_eq_false (Nat.lt_irrefl _))
    have hclosure : (closures.insertCompletion value).2.flag?
        (.completion closures.nextCompletion) = some false := by
      rw [Closures.flag?_insertCompletion, if_pos rfl]
    refine (Standing.sound_iff_of_once hclosure).2 ⟨decide_eq_true (Nat.lt_succ_self _), rfl, ?_⟩
    have hflight : s.network.inFlight closures.nextCompletion = 0 := hsources
    have hcount : s.queue.count (.completion closures.nextCompletion) = 0 := hqueued
    have hbatch : occurrences batch (.completion closures.nextCompletion) = 0 := hdrained
    show (s.network.start request closures.nextCompletion).2.inFlight closures.nextCompletion +
      s.queue.count _ + occurrences batch _ = 1
    rw [h.numbered.inFlight_start, if_pos rfl, hflight, hcount, hbatch]

/-- Only the number of operations in flight matters of the network. -/
theorem network (h : Corresponds s closures batch) {network : Coordinator}
    (hnumbered : network.Numbered) (hflight : ∀ id, network.inFlight id = s.network.inFlight id) :
    Corresponds { s with network } closures batch :=
  h.same h.indexed hnumbered fun _ =>
    standing_congr rfl rfl (fun _ _ => rfl) (fun id _ => hflight id) rfl rfl

/-- A delivery moves the use of a closure from an operation to the queue. -/
theorem deliver (h : Corresponds s closures batch) (op : Nat) :
    Corresponds (s.deliver op) closures batch := by
  have hnumbered := h.numbered.deliver s.queue op
  rcases Coordinator.deliver_cases s.network s.queue op with
    hnothing | ⟨completion, outcome, hqueue, hflight⟩
  · have hsame : s.deliver op = s := by
      unfold Services.deliver
      rw [hnothing]
    rwa [hsame]
  · have hcount : ∀ t, (s.network.deliver s.queue op).2.count t =
        s.queue.count t + if Target.completion completion = t then 1 else 0 := by
      intro t
      rw [hqueue, Queue.count_enqueue_completion]
    refine h.change (.completion completion) ?_ hnumbered ?_ ?_
    · show (s.network.deliver s.queue op).2.Indexed
      rw [hqueue]
      exact h.indexed.enqueue_completion completion outcome
    · intro t ht
      refine standing_congr rfl rfl (fun _ _ => rfl) ?_ ?_ rfl
      · rintro j rfl
        have hj := hflight j
        rw [if_neg fun heq => ht (by rw [heq]), Nat.add_zero] at hj
        exact hj
      · refine (hcount t).trans ?_
        rw [if_neg (Ne.symm ht), Nat.add_zero]
    · have hsum := hflight completion
      have hentry := hcount (.completion completion)
      rw [if_pos rfl] at hsum hentry
      rw [standing_completion, standing_completion]
      show Standing.Sound _ _ → Standing.Sound _ ⟨_, _, _,
        (s.network.deliver s.queue op).1.inFlight completion,
        (s.network.deliver s.queue op).2.count (.completion completion), _⟩
      rw [hentry, ← hsum]
      cases closures.flag? (.completion completion) with
      | none => simp [Standing.Sound]
      | some again =>
          cases again with
          | true => simp [Standing.Sound]
          | false =>
              simp [Standing.Sound]
              omega

/-! ## Guest code -/

/-- Whatever guest code asks for. -/
theorem perform (h : Corresponds s closures batch) (request : Ask F) :
    Corresponds (Desk.perform request s closures).2.1 (Desk.perform request s closures).2.2
      batch := by
  cases request with
  | setTimer value delay repeating =>
      unfold Desk.perform
      dsimp only
      split
      · exact h
      · rename_i millis hdelay
        cases hcreate : s.timers.create millis repeating with
        | error fault =>
            rw [Services.createTimer, hcreate]
            exact h
        | ok created =>
            rw [Services.createTimer, hcreate]
            exact h.create hcreate value
  | clearTimer timer =>
      cases timer with
      | none => exact h
      | some id => exact h.clear id
  | start value request =>
      unfold Desk.perform
      dsimp only
      split
      · exact h
      · exact h.start request value
  | close kind handle => exact h.network h.numbered fun id => rfl

/-! ## Passes -/

/-- The wake-up token says nothing about the entries. -/
theorem token (h : Corresponds s closures batch) (token : Bool) :
    Corresponds { s with queue := { s.queue with token } } closures batch :=
  h.same h.indexed h.numbered fun _ => rfl

/-- A drain moves the entries of the queue to the batch. -/
theorem drain (h : Corresponds s closures []) :
    Corresponds { s with queue := s.queue.drain.2 } closures s.queue.drain.1 where
  indexed := Queue.indexed_drain _
  numbered := h.numbered
  sound t := by
    have hs := h.sound t
    cases hclosure : closures.flag? t with
    | none =>
        obtain ⟨hsources, hqueued, -⟩ := (Standing.sound_iff_of_none hclosure).1 hs
        refine (Standing.sound_iff_of_none hclosure).2 ⟨hsources, rfl, fun hpos => ?_⟩
        exact absurd hqueued (Nat.ne_of_gt hpos)
    | some again =>
        cases again with
        | false =>
            obtain ⟨hissued, honce, hsum⟩ := (Standing.sound_iff_of_once hclosure).1 hs
            refine (Standing.sound_iff_of_once hclosure).2 ⟨hissued, honce, ?_⟩
            show sources s t + 0 + s.queue.count t = 1
            exact hsum
        | true =>
            obtain ⟨hissued, hagain⟩ := (Standing.sound_iff_of_again hclosure).1 hs
            exact (Standing.sound_iff_of_again hclosure).2 ⟨hissued, hagain⟩

/-- Looking a closure up takes its callback from the batch, and a closure that is used once from the
table. -/
theorem resolve {c : Callback} (h : Corresponds s closures (c :: batch)) :
    Corresponds s (closures.resolve c.target).2 batch := by
  have hdrained : (standing s closures (c :: batch) c.target).drained =
      occurrences batch c.target + 1 := (Ready.occurrences_cons _ _ _).trans (by rw [if_pos rfl])
  refine h.change c.target h.indexed h.numbered ?_ ?_
  · intro t ht
    refine standing_congr ?_ ?_ (fun _ _ => rfl) (fun _ _ => rfl) rfl ?_
    · cases t with
      | timer j => rfl
      | completion j => exact congrArg (decide <| j < ·) (Closures.nextCompletion_resolve _ _)
    · rw [Closures.flag?_resolve, if_neg fun hboth => ht hboth.1]
    · rw [Ready.occurrences_cons, if_neg (Ne.symm ht), Nat.add_zero]
  · intro hs
    have hissued : isIssued s (closures.resolve c.target).2 c.target =
        isIssued s closures c.target := by
      cases c.target with
      | timer j => rfl
      | completion j => exact congrArg (decide <| j < ·) (Closures.nextCompletion_resolve _ _)
    have hafter := closures.flag?_resolve c.target c.target
    cases hclosure : closures.flag? c.target with
    | none =>
        -- A firing that was drained before its timer was cleared.
        obtain ⟨hsources, hqueued, hstale⟩ := (Standing.sound_iff_of_none hclosure).1 hs
        rw [hclosure, if_neg (by simp)] at hafter
        refine (Standing.sound_iff_of_none hafter).2 ⟨hsources, hqueued, fun _ => ?_⟩
        obtain ⟨htimer, hgiven⟩ := hstale (by omega)
        exact ⟨htimer, hissued.trans hgiven⟩
    | some again =>
        cases again with
        | false =>
            -- The callback was the one use that the closure had.
            obtain ⟨hgiven, -, hsum⟩ := (Standing.sound_iff_of_once hclosure).1 hs
            rw [hclosure, if_pos ⟨rfl, rfl⟩] at hafter
            rw [hdrained] at hsum
            refine (Standing.sound_iff_of_none hafter).2 ⟨?_, ?_, ?_⟩
            · show (standing s closures (c :: batch) c.target).sources = 0
              omega
            · show (standing s closures (c :: batch) c.target).queued = 0
              omega
            · show 0 < occurrences batch c.target → _
              omega
        | true =>
            obtain ⟨hgiven, hinterval⟩ := (Standing.sound_iff_of_again hclosure).1 hs
            rw [hclosure, if_neg (by simp)] at hafter
            exact (Standing.sound_iff_of_again hafter).2 ⟨hissued.trans hgiven, hinterval⟩

/-! ## What the correspondence says -/

/-- What is still to be queued or has been queued has its closure. -/
theorem contains_of_use (h : Corresponds s closures batch) {t : Target}
    (huse : 0 < sources s t ∨ 0 < s.queue.count t) : closures.contains t = true := by
  rw [Closures.contains_eq]
  cases hclosure : closures.flag? t with
  | some again => rfl
  | none =>
      obtain ⟨hsources, hqueued, -⟩ := (Standing.sound_iff_of_none hclosure).1 (h.sound t)
      rcases huse with huse | huse
      · exact absurd hsources (Nat.ne_of_gt huse)
      · exact absurd hqueued (Nat.ne_of_gt huse)

/-- A closure has a use: its own is still to come, or it is an interval's. -/
theorem use_of_contains (h : Corresponds s closures batch) {t : Target}
    (hcontains : closures.contains t = true) :
    0 < sources s t ∨ 0 < s.queue.count t ∨ 0 < occurrences batch t := by
  obtain ⟨again, hclosure⟩ := (Closures.contains_iff _ _).1 hcontains
  cases again with
  | false =>
      obtain ⟨-, -, hsum⟩ := (Standing.sound_iff_of_once hclosure).1 (h.sound t)
      have : sources s t + s.queue.count t + occurrences batch t = 1 := hsum
      omega
  | true =>
      obtain ⟨-, hinterval⟩ := (Standing.sound_iff_of_again hclosure).1 (h.sound t)
      cases t with
      | completion id => cases hinterval
      | timer id =>
          have hkind : s.timers.kind? id = some true := of_decide_eq_true hinterval
          refine .inl ?_
          rw [sources, Timers.isLive_eq, hkind]
          exact Nat.one_pos

/-- The callback of a completion that has been drained has its closure until it is looked up. -/
theorem contains_completion_iff (h : Corresponds s closures batch) (id : Nat) :
    closures.contains (.completion id) = true ↔
      0 < s.network.inFlight id ∨ 0 < s.queue.count (.completion id) ∨
        0 < occurrences batch (.completion id) := by
  constructor
  · exact h.use_of_contains
  · rintro (huse | huse | huse)
    · exact h.contains_of_use (.inl huse)
    · exact h.contains_of_use (.inr huse)
    · rw [Closures.contains_eq]
      cases hclosure : closures.flag? (.completion id) with
      | some again => rfl
      | none =>
          obtain ⟨-, -, hstale⟩ := (Standing.sound_iff_of_none hclosure).1 (h.sound (.completion id))
          obtain ⟨⟨_, htimer⟩, -⟩ := hstale huse
          cases htimer

/-- Nothing is registered when nothing is to come. -/
theorem size_eq_zero (h : Corresponds s closures []) (htimers : s.timers.size = 0)
    (hnetwork : ∀ id, s.network.inFlight id = 0) (hqueue : s.queue.isEmpty = true) :
    closures.size = 0 := by
  have hentries : s.queue.entries = [] := List.isEmpty_iff.1 hqueue
  rw [Closures.size_eq_zero_iff]
  intro t
  cases hclosure : closures.flag? t with
  | none => rfl
  | some again =>
      exfalso
      have hcontains : closures.contains t = true := by
        rw [Closures.contains_eq, hclosure]
        rfl
      rcases h.use_of_contains hcontains with huse | huse | huse
      · cases t with
        | timer id =>
            rw [sources_timer_pos_iff, Timers.isLive, Table.contains,
              (Table.size_eq_zero_iff _).1 htimers id] at huse
            cases huse
        | completion id => exact absurd (hnetwork id) (Nat.ne_of_gt huse)
      · rw [Queue.count, hentries] at huse
        exact Nat.lt_irrefl 0 huse
      · exact Nat.lt_irrefl 0 huse

end ScriptHost.Desk.Corresponds
