import ScriptHost.Proofs.Data.Table
import ScriptHost.Proofs.Service.Teardown
import ScriptHost.Proofs.Timer.Cancellation

/-!
# Cancelling all timers and cancelling each

A cancellation takes a timer out of the live set, drops its queued firing, and stops its task if it was
live.  Cancelling all timers takes them out in one step, and then stops the task and drops the firing of
one after the other, in whatever order the live set hands them out.

The two are the same thing.  Discards of different timers do not get in each other's way, so the order
does not matter (`discardAll_perm`), and where all timers cancelled are live each single cancellation
does to its timer what the sweep does to it.  As steps of threads, both lead from one state to one state
(`Shared.run_each`, `Shared.run_all`).
-/

namespace ScriptHost

open Ready (Queue Callback)

namespace Table

variable {κ ν : Type} [DecidableEq κ]

theorem get?_foldl_erase (keys : List κ) (k : κ) : ∀ t : Table κ ν,
    (keys.foldl erase t).get? k = if k ∈ keys then none else t.get? k := by
  induction keys with
  | nil => exact fun t => (if_neg List.not_mem_nil).symm
  | cons j keys ih =>
      intro t
      rw [List.foldl_cons, ih, get?_erase]
      by_cases hk : k = j <;> simp [hk]

theorem eq_empty_of_get?_eq_none {t : Table κ ν} (h : ∀ k, t.get? k = none) : t = empty := by
  obtain ⟨entries, nodup⟩ := t
  have hsize : entries.length = 0 := (size_eq_zero_iff ⟨entries, nodup⟩).2 h
  cases List.length_eq_zero_iff.1 hsize
  rfl

/-- Taking out every key leaves nothing. -/
theorem foldl_erase_eq_empty {t : Table κ ν} {keys : List κ} (hkeys : keys.Perm t.keys) :
    keys.foldl erase t = empty := by
  refine eq_empty_of_get?_eq_none fun k => ?_
  rw [get?_foldl_erase]
  split
  · rfl
  · rename_i hout
    rwa [get?_eq_none_iff, ← hkeys.mem_iff]

end Table

namespace Timers

/-! ## Discards do not get in each other's way -/

theorem mem_waiting_discard {q : Queue} {a b : Nat} (hne : b ≠ a) :
    b ∈ (q.discard a).2.waiting ↔ b ∈ q.waiting := by
  rw [Queue.discard]
  split <;> simp [hne]

theorem discard_comm (q : Queue) (a b : Nat) :
    ((q.discard a).2.discard b).2 = ((q.discard b).2.discard a).2 := by
  by_cases hab : a = b
  · rw [hab]
  have hafter : b ∈ (q.discard a).2.waiting ↔ b ∈ q.waiting := mem_waiting_discard (Ne.symm hab)
  have hbefore : a ∈ (q.discard b).2.waiting ↔ a ∈ q.waiting := mem_waiting_discard hab
  by_cases ha : a ∈ q.waiting <;> by_cases hb : b ∈ q.waiting
  · rw [Queue.discard_of_mem (hafter.2 hb), Queue.discard_of_mem (hbefore.2 ha),
      Queue.discard_of_mem ha, Queue.discard_of_mem hb]
    simp only [List.filter_filter, Bool.and_comm]
  · rw [Queue.discard_of_not_mem (mt hafter.1 hb), Queue.discard_of_not_mem hb]
  · rw [Queue.discard_of_not_mem ha, Queue.discard_of_not_mem (mt hbefore.1 ha)]
  · rw [Queue.discard_of_not_mem (mt hafter.1 hb), Queue.discard_of_not_mem ha,
      Queue.discard_of_not_mem hb, Queue.discard_of_not_mem ha]

theorem discardAll_perm {order sweep : List Nat} (h : order.Perm sweep) (q : Queue) :
    discardAll q order = discardAll q sweep :=
  h.foldl_eq' (fun a _ b _ q => discard_comm q a b) q

/-- Discarding leaves token and counts alone. -/
theorem counts_discardAll (ids : List Nat) : ∀ q : Queue,
    (discardAll q ids).accepted = q.accepted ∧ (discardAll q ids).coalesced = q.coalesced ∧
      (discardAll q ids).token = q.token := by
  induction ids with
  | nil => exact fun _ => ⟨rfl, rfl, rfl⟩
  | cons id ids ih =>
      intro q
      have hone : (q.discard id).2.accepted = q.accepted ∧ (q.discard id).2.coalesced = q.coalesced ∧
          (q.discard id).2.token = q.token := by
        rw [Queue.discard]
        split <;> exact ⟨rfl, rfl, rfl⟩
      obtain ⟨haccepted, hcoalesced, htoken⟩ := ih (q.discard id).2
      exact ⟨haccepted.trans hone.1, hcoalesced.trans hone.2.1, htoken.trans hone.2.2⟩

/-- Whether a callback is the firing of a live timer. -/
def owns (t : Timers) (c : Callback) : Bool :=
  match c.target with
  | .timer id => t.isLive id
  | .completion _ => false

/-- Of the entries, the firings of live timers go. -/
theorem entries_discardAll_live {t : Timers} {q : Queue} (hindexed : q.Indexed) {order : List Nat}
    (horder : order.Perm t.live.keys) :
    (discardAll q order).entries = q.entries.filter (!t.owns ·) := by
  rw [entries_discardAll order hindexed]
  refine List.filter_congr fun c _ => ?_
  cases htarget : c.target with
  | completion id => simp [owns, htarget]
  | timer id =>
      have hmem : id ∈ order ↔ t.isLive id = true := by rw [horder.mem_iff, mem_keys_iff]
      by_cases hlive : t.isLive id = true
      · simp only [owns, htarget, hlive, Bool.not_true, List.all_eq_false]
        exact ⟨id, hmem.2 hlive, by simp⟩
      · simp only [owns, htarget, hlive, Bool.not_false, List.all_eq_true]
        intro other hother
        refine decide_eq_true fun hsame => ?_
        cases hsame
        exact hlive (hmem.1 hother)

/-- Timers with some of them taken out. -/
def withoutAll (t : Timers) (ids : List Nat) : Timers :=
  { t with live := ids.foldl Table.erase t.live }

/-- Where one of several live timers is taken out, the others are still live. -/
theorem live_of_remove {t : Timers} {id : Nat} {ids : List Nat} (hnodup : (id :: ids).Nodup)
    (hlive : ∀ j ∈ id :: ids, t.isLive j = true) : ∀ j ∈ ids, (t.remove id).2.isLive j = true := by
  intro j hj
  have hne : j ≠ id := fun heq => (List.nodup_cons.1 hnodup).1 (heq ▸ hj)
  rw [isLive_eq, kind?_remove, if_neg hne, ← isLive_eq]
  exact hlive j (List.mem_cons_of_mem _ hj)

/-! ## Both ways as calls -/

/-- The timers, the queue that they fire into, and the timers whose tasks have been stopped. -/
structure Ending where
  timers : Timers
  queue : Queue
  stopped : List Nat

namespace Ending

/-- Cancel a timer, and stop its task if it was live: whether it was. -/
def cancel (s : Ending) (id : Nat) : Bool × Ending :=
  let (live, timers, queue) := s.timers.cancel s.queue id
  (live, ⟨timers, queue, if live then s.stopped ++ [id] else s.stopped⟩)

/-- Cancel timers one by one: what the calls answer. -/
def cancelEach (s : Ending) : List Nat → List Bool × Ending
  | [] => ([], s)
  | id :: rest =>
      let (live, s) := s.cancel id
      let (answers, s) := s.cancelEach rest
      (live :: answers, s)

/-- Stop the tasks of timers and drop their firings, one after the other. -/
def sweep (s : Ending) : List Nat → Ending
  | [] => s
  | id :: rest => { s with queue := (s.queue.discard id).2, stopped := s.stopped ++ [id] }.sweep rest

/-- Cancel all timers, in the order in which the live set hands them out: how many there were. -/
def cancelAll (s : Ending) (order : List Nat) : Nat × Ending :=
  (order.length, { s with timers.live := .empty }.sweep order)

theorem sweep_eq (ids : List Nat) : ∀ s : Ending,
    s.sweep ids = ⟨s.timers, discardAll s.queue ids, s.stopped ++ ids⟩ := by
  induction ids with
  | nil =>
      intro s
      rw [List.append_nil]
      rfl
  | cons id ids ih =>
      intro s
      rw [sweep, ih, List.append_assoc]
      rfl

/-- As far as timers and queue go, this is the cancellation of all timers. -/
theorem cancelAll_eq {s : Ending} {order : List Nat} (horder : order.Perm s.timers.live.keys) :
    ((s.cancelAll order).1, (s.cancelAll order).2.timers, (s.cancelAll order).2.queue) =
      s.timers.cancelAll s.queue := by
  have hcount : order.length = s.timers.size := by
    rw [horder.length_eq, Table.keys, List.length_map]
    rfl
  rw [cancelAll, sweep_eq, Timers.cancelAll, hcount, discardAll_perm horder]

theorem cancel_of_live {s : Ending} {id : Nat} (hlive : s.timers.isLive id = true) :
    s.cancel id =
      (true, ⟨(s.timers.remove id).2, (s.queue.discard id).2, s.stopped ++ [id]⟩) := by
  simp [cancel, Timers.cancel, remove, hlive]

/-- Cancelling live timers one by one takes them out, drops their firings and stops their tasks. -/
theorem cancelEach_eq (ids : List Nat) : ∀ {s : Ending}, ids.Nodup →
    (∀ id ∈ ids, s.timers.isLive id = true) →
    s.cancelEach ids =
      (List.replicate ids.length true,
        ⟨s.timers.withoutAll ids, discardAll s.queue ids, s.stopped ++ ids⟩) := by
  induction ids with
  | nil =>
      intro s _ _
      rw [List.append_nil]
      rfl
  | cons id ids ih =>
      intro s hnodup hlive
      have hfirst := cancel_of_live (hlive id List.mem_cons_self)
      have hrest := ih (s := (s.cancel id).2) hnodup.of_cons (by
        rw [hfirst]
        exact live_of_remove hnodup hlive)
      show ((s.cancel id).1 :: ((s.cancel id).2.cancelEach ids).1,
        ((s.cancel id).2.cancelEach ids).2) = _
      rw [hrest, hfirst, List.append_assoc]
      rfl

end Ending

/-! ## Both ways as steps -/

namespace Shared

/-- A thread that was at leisure ends its errand, while the others are where they were. -/
theorem assign_none {s t : Shared} {thread : Nat} (hfree : s.errand thread = .none)
    (hothers : ∀ other ≠ thread, t.errand other = s.errand other) :
    t.assign thread .none = { s with timers := t.timers, queue := t.queue } := by
  have herrand : (fun other => if other = thread then .none else t.errand other) = s.errand := by
    funext other
    split
    · rename_i hsame
      rw [hsame, hfree]
    · rename_i hne
      exact hothers other hne
  rw [assign, herrand]

/-- The events of cancelling live timers one by one. -/
def eachEvents (thread : Nat) (ids : List Nat) : List Event :=
  ids.flatMap fun id => [.removed thread id true, .returned thread id true]

/-- The events of cancelling all timers, but for the return of the call. -/
def sweepEvents (thread : Nat) (taken sweep : List Nat) : List Event :=
  .removedAll thread taken :: sweep.map (.discarded thread)

theorem run_each {thread : Nat} (ids : List Nat) : ∀ {s : Shared}, s.errand thread = .none →
    ids.Nodup → (∀ id ∈ ids, s.timers.isLive id = true) →
    Run s (eachEvents thread ids)
      { s with timers := s.timers.withoutAll ids, queue := discardAll s.queue ids } := by
  induction ids with
  | nil => exact fun {s} _ _ _ => .nil s
  | cons id ids ih =>
      intro s hfree hnodup hlive
      have hremove := Step.remove id hfree
      have hdiscard := @Step.discard (({ s with timers := (s.timers.remove id).2 } : Shared).assign
        thread (.cancelling id (s.timers.remove id).1)) thread id _ (by rw [errand_assign, if_pos rfl])
      have hfound : (s.timers.remove id).1 = true := hlive id List.mem_cons_self
      rw [hfound] at hremove hdiscard
      rw [assign_none hfree fun other hne => by
        show (Shared.assign _ _ _).errand other = _
        rw [errand_assign, if_neg hne]] at hdiscard
      refine .cons hremove (.cons hdiscard ?_)
      exact ih hfree hnodup.of_cons (live_of_remove hnodup hlive)

theorem run_sweep {thread : Nat} {taken : List Nat} (sweep : List Nat) :
    ∀ {s : Shared} {left : List Nat}, s.errand thread = .cancellingAll taken left →
      sweep.Perm left →
      ∃ t, Run s (sweep.map (.discarded thread)) t ∧ t.timers = s.timers ∧
        t.queue = discardAll s.queue sweep ∧ t.errand thread = .cancellingAll taken [] ∧
        ∀ other ≠ thread, t.errand other = s.errand other := by
  induction sweep with
  | nil =>
      intro s left herrand hperm
      rw [List.nil_perm.1 hperm] at herrand
      exact ⟨s, .nil s, rfl, rfl, herrand, fun _ _ => rfl⟩
  | cons id sweep ih =>
      intro s left herrand hperm
      have hin : id ∈ left := hperm.mem_iff.1 List.mem_cons_self
      have hrest : sweep.Perm (left.erase id) := by
        have herase := hperm.erase id
        rwa [List.erase_cons_head] at herase
      obtain ⟨t, hrun, htimers, hqueue, hown, hothers⟩ :=
        ih (s := ({ s with queue := (s.queue.discard id).2 } : Shared).assign thread
          (.cancellingAll taken (left.erase id))) (by rw [errand_assign, if_pos rfl]) hrest
      refine ⟨t, .cons (.discardOne herrand hin) hrun, htimers, hqueue, hown, fun other hne => ?_⟩
      rw [hothers other hne, errand_assign, if_neg hne]

/-- Whatever the order of the sweep, nothing is heard of the timers once it is over. -/
theorem run_all {events : List Event} {s : Shared} (hrun : Run start events s) {thread : Nat}
    (hfree : s.errand thread = .none) {sweep : List Nat} (hsweep : sweep.Perm s.timers.live.keys) :
    let t : Shared :=
      { s with timers := { s.timers with live := .empty }, queue := discardAll s.queue sweep }
    Run s (sweepEvents thread s.timers.live.keys sweep ++ [.returnedAll thread s.timers.live.keys]) t ∧
      ∀ id ∈ s.timers.live.keys, t.NeverAgain id := by
  intro t
  have htake := Step.removeAll hfree
  obtain ⟨u, hsweeps, htimers, hqueue, hown, hothers⟩ :=
    run_sweep sweep (s := ({ s with timers.live := .empty } : Shared).assign thread
      (.cancellingAll s.timers.live.keys s.timers.live.keys)) (by rw [errand_assign, if_pos rfl]) hsweep
  have hback : u.assign thread .none = t := by
    rw [assign_none hfree fun other hne => by rw [hothers other hne, errand_assign, if_neg hne],
      htimers, hqueue]
    rfl
  have hlast : Step u (.returnedAll thread s.timers.live.keys) t := hback ▸ Step.finishAll hown
  have hswept : Run s (sweepEvents thread s.timers.live.keys sweep) u := .cons htake hsweeps
  obtain ⟨-, -, -, -, -, -, hnever⟩ := (hrun.append hswept).returnedAll hlast
  exact ⟨hswept.snoc hlast, hnever⟩

/-- **Cancelling all timers is cancelling each of them.**  Take any state that threads can bring timers and
queue to, the live timers in any order, and any order in which they are swept.  Cancelling them one by one
in the first order and cancelling all of them at once lead to the same timers, of which none is live, and
to the same queue; they stop the same tasks, and the number of timers cancelled at once is the number of
single calls that answer `true`.

Of the queue the firings of live timers are gone.  Everything else has stayed, in its order: completions,
and firings of timers that were not live; and so have the counts and the token.

Taken step by step, the calls of one thread lead from the state to one and the same state both ways, and
none of these timers is ever heard of again, whatever happens afterwards. -/
theorem cancelling_all_is_cancelling_each {events : List Event} {s : Shared}
    (hrun : Run start events s) {order sweep : List Nat} (horder : order.Perm s.timers.live.keys)
    (hsweep : sweep.Perm s.timers.live.keys) (stopped : List Nat) :
    let before : Ending := ⟨s.timers, s.queue, stopped⟩
    let each := (before.cancelEach order).2
    let all := (before.cancelAll sweep).2
    let t : Shared := { s with timers := all.timers, queue := all.queue }
    each.timers = all.timers ∧ each.queue = all.queue ∧ each.stopped.Perm all.stopped ∧
    (before.cancelAll sweep).1 = (before.cancelEach order).1.count true ∧
    ((before.cancelAll sweep).1, all.timers, all.queue) = s.timers.cancelAll s.queue ∧
    all.timers.size = 0 ∧
    all.queue.entries = s.queue.entries.filter (!s.timers.owns ·) ∧
    (all.queue.accepted = s.queue.accepted ∧ all.queue.coalesced = s.queue.coalesced ∧
      all.queue.token = s.queue.token) ∧
    ∀ thread, s.errand thread = .none →
      Run s (eachEvents thread order) t ∧
      Run s (sweepEvents thread s.timers.live.keys sweep ++
        [.returnedAll thread s.timers.live.keys]) t ∧
      ∀ id, s.timers.isLive id = true → t.NeverAgain id := by
  have hnodup : order.Nodup := horder.nodup_iff.2 s.timers.live.nodup_keys
  have hlive : ∀ id ∈ order, s.timers.isLive id = true := fun id hid =>
    (mem_keys_iff s.timers id).1 (horder.mem_iff.1 hid)
  have hempty : s.timers.withoutAll order = { s.timers with live := .empty } := by
    rw [withoutAll, Table.foldl_erase_eq_empty horder]
  have hsame : discardAll s.queue order = discardAll s.queue sweep :=
    discardAll_perm (horder.trans hsweep.symm) s.queue
  have hwhole := Ending.cancelAll_eq (s := ⟨s.timers, s.queue, stopped⟩) hsweep
  intro before
  have heach : before.cancelEach order = (List.replicate order.length true,
      ⟨{ s.timers with live := .empty }, discardAll s.queue sweep, stopped ++ order⟩) := by
    rw [Ending.cancelEach_eq order hnodup hlive, hempty, hsame]
  have hall : before.cancelAll sweep = (sweep.length,
      ⟨{ s.timers with live := .empty }, discardAll s.queue sweep, stopped ++ sweep⟩) := by
    rw [Ending.cancelAll, Ending.sweep_eq]
  rw [heach, hall]
  rw [hall] at hwhole
  refine ⟨rfl, rfl, (horder.trans hsweep.symm).append_left stopped, ?_, hwhole, rfl,
    entries_discardAll_live hrun.sound.indexed hsweep, counts_discardAll sweep s.queue,
    fun thread hfree => ?_⟩
  · rw [List.count_replicate_self, (horder.trans hsweep.symm).length_eq]
  · obtain ⟨hswept, hnever⟩ := run_all hrun hfree hsweep
    have hsteps := run_each order hfree hnodup hlive
    rw [hempty, hsame] at hsteps
    exact ⟨hsteps, hswept, fun id hid => hnever id ((mem_keys_iff s.timers id).2 hid)⟩

/-- An interval has fired twice, so that its second firing was coalesced, and a timer that fires once has
fired; another one has not.  A completion is queued behind the firings. -/
def crowd : List Event :=
  [.created 1, .created 2, .created 3, .woken 1 true, .woken 1 false, .woken 3 true, .completed 7]

/-- Cancelled from the last to the first or all at once, the two live timers go, with one firing; that of
the timer which fires once stays, in front of the completion. -/
theorem crowd_is_cancelled : ∃ s, Run start crowd s ∧ s.timers.live.keys = [1, 2] ∧
    s.queue.entries.map (·.target) = [.timer 1, .timer 3, .completion 7] ∧
    let before : Ending := ⟨s.timers, s.queue, []⟩
    (before.cancelEach [2, 1]).2.queue = (before.cancelAll [1, 2]).2.queue ∧
    (before.cancelEach [2, 1]).1.count true = 2 ∧
    (before.cancelAll [1, 2]).2.queue.entries.map (·.target) = [.timer 3, .completion 7] := by
  obtain ⟨s, hrun, hkeys, hentries, howned⟩ : ∃ s, Run start crowd s ∧ s.timers.live.keys = [1, 2] ∧
      s.queue.entries.map (·.target) = [.timer 1, .timer 3, .completion 7] ∧
      (s.queue.entries.filter (!s.timers.owns ·)).map (·.target) = [.timer 3, .completion 7] := by
    have hrun := Run.nil start
      |>.snoc (@Step.create _ 5 true 1 _ rfl)
      |>.snoc (@Step.create _ 9 false 2 _ rfl)
      |>.snoc (@Step.create _ 0 false 3 _ rfl)
      |>.snoc (.wake 1) |>.snoc (.wake 1) |>.snoc (.wake 3) |>.snoc (.complete 7 .noData)
    exact ⟨_, hrun, rfl, rfl, rfl⟩
  have horder : [2, 1].Perm s.timers.live.keys := by
    rw [hkeys]
    exact .swap 1 2 []
  have hsweep : [1, 2].Perm s.timers.live.keys := by rw [hkeys]
  obtain ⟨-, hqueue, -, hcount, -, -, hleft, -, -⟩ :=
    cancelling_all_is_cancelling_each hrun horder hsweep []
  refine ⟨s, hrun, hkeys, hentries, hqueue, hcount.symm, ?_⟩
  rw [hleft, howned]

end Shared
end Timers
end ScriptHost
