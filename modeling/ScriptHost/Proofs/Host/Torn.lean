import ScriptHost.Proofs.Desk.Orphans
import ScriptHost.Proofs.Host.Backlog
import ScriptHost.Proofs.Host.Operations

/-!
# Tallies torn by timers and operations

The six counts of a tally are read one after the other while timers fire and operations end.  What
they do is cut finer here than elsewhere (`Midway`): a timer that fires is taken out before its firing
is queued, and holds the lock of the live timers in between; an operation takes back its count before
its task ends; and a guest that starts an operation may stand still between the start of the task and
its entry in the registry.

Work goes from one kind to another on its way to the guest (`Work.Leads`), and it is never in none.
Reading the counts in their order one cannot miss it: whatever has been passed by is read later
(`Owed`), with one exception, the handle that an operation closes.  There the count of operations,
which is read before the handles, has told of it.
-/

namespace ScriptHost

open Desk (Language State)
open Network (Coordinator Handles Kind Reply)
open Quiescence (Count Tally counts outstanding together together_append)
open Ready (Callback Closures Outcome Queue)

/-- The services with what is half done. -/
structure Midway where
  services : Services
  /-- The timer that holds the lock of the live timers.  Its firing is not queued yet. -/
  firing : Option Nat
  /-- The operation whose task is not in the registry yet. -/
  unlisted : Option Nat
  /-- The operations that have taken back their count and whose tasks have not ended. -/
  leaving : List Nat

/-- What a timer or an operation does in one step. -/
inductive Deed where
  | elapse (millis : Nat)
  /-- A timer that is due takes the lock, and is live no more if it fires once only. -/
  | expire (id : Nat)
  /-- The timer that holds the lock queues its firing, arms itself again if it is still live, and lets
  go of the lock. -/
  | queueFiring
  | begin (op : Nat)
  | reply (op : Nat) (r : Reply)
  | giveUp (op : Nat)
  | deliver (op : Nat)
  /-- An operation that has queued its callback takes back its count. -/
  | uncount (op : Nat)
  /-- The task of an operation that has taken back its count ends. -/
  | finish (op : Nat)

/-- The kinds of outstanding work. -/
inductive Work where
  | timer
  | firing
  /-- An operation that is still to queue its callback. -/
  | operation
  /-- The count of an operation whose task was dropped before it ran. -/
  | count
  | handle (kind : Kind)
  | callback

/-- What work turns into on its way to the guest, in one step. -/
inductive Work.Leads : Work → Work → Prop where
  | same (w : Work) : Leads w w
  | expire : Leads .timer .firing
  | queueFiring : Leads .firing .callback
  | deliver : Leads .operation .callback
  /-- An operation closes the handle that it has worked on. -/
  | close (kind : Kind) : Leads (.handle kind) .operation

namespace Midway

/-- Services with nothing half done. -/
def between (s : Services) : Midway := ⟨s, none, none, []⟩

/-- What a deed does.  A deed that cannot happen does nothing. -/
def act (p : Midway) : Deed → Midway
  | .elapse millis =>
      { p with services.timers.now := p.services.timers.now + millis }
  | .expire id =>
      match p.firing, p.services.timers.live.get? id with
      | none, some timer =>
          if timer.due ≤ p.services.now then
            { p with
              services.timers.live :=
                if timer.repeating then p.services.timers.live
                else p.services.timers.live.erase id
              firing := some id }
          else p
      | _, _ => p
  | .queueFiring =>
      match p.firing with
      | some id =>
          { p with
            services.queue := (p.services.queue.enqueue (.firing id)).2
            services.timers := p.services.timers.rearm id
            firing := none }
      | none => p
  | .begin op => { p with services.network := p.services.network.begin op }
  | .reply op r => { p with services.network := p.services.network.reply op r }
  | .giveUp op => { p with services.network := p.services.network.giveUp op }
  | .deliver op => { p with services := p.services.deliver op }
  | .uncount op =>
      match p.services.network.operations.get? op with
      | some ⟨_, _, .queued⟩ =>
          { p with
            services.network := p.services.network.retire op
            leaving := op :: p.leaving }
      | _ => p
  | .finish op => { p with leaving := p.leaving.filter (· ≠ op) }

/-- A run of deeds. -/
def follow (p : Midway) (deeds : List Deed) : Midway := deeds.foldl act p

/-- Read a count.  Tasks count that are in the registry and have not ended.  The live timers cannot be
counted while a timer holds their lock. -/
def read? (p : Midway) : Count → Option Nat
  | .backgroundTasks =>
      some ((p.services.network.operations.keys ++ p.leaving).countP (some · ≠ p.unlisted))
  | .activeTimers => if p.firing.isSome then none else some (Count.activeTimers.read p.services)
  | c => some (c.read p.services)

/-- Whether there is work of a kind. -/
def Has (p : Midway) : Work → Prop
  | .timer => ∃ id, p.services.timers.isLive id = true
  | .firing => p.firing.isSome = true
  | .operation => ∃ id, 0 < p.services.network.inFlight id
  | .count => p.services.network.operations.size < p.services.network.active
  | .handle kind => ∃ id, p.services.network.handles.isOpen kind id = true
  | .callback => p.services.queue.entries ≠ []

/-- The index of the queue is exact, and every operation whose task has not ended is counted until it
has queued its callback. -/
structure Sound (p : Midway) : Prop where
  indexed : p.services.queue.Indexed
  counted : ∃ lost, p.services.network.Balanced lost

variable {p : Midway}

/-! ## Whole steps -/

/-- Both halves of a firing are the wake-up of the timer. -/
theorem follow_fire (s : Services) (id : Nat) :
    (between s).follow [.expire id, .queueFiring] = between (s.wakeTimer id) := by
  obtain ⟨timers, queue, network⟩ := s
  simp only [follow, List.foldl_cons, List.foldl_nil, between, act, Services.wakeTimer, Services.now,
    Timers.fireAt, Timers.fire]
  cases hget : timers.live.get? id with
  | none => rfl
  | some timer =>
      by_cases hdue : timer.due ≤ timers.now
      · cases hrepeats : timer.repeating <;> simp [hdue, hrepeats]
      · simp [hdue]

/-- Both halves of the end of an operation are its end. -/
theorem follow_end (s : Services) (op : Nat) :
    (between s).follow [.uncount op, .finish op] =
      between { s with network := s.network.retire op } := by
  obtain ⟨timers, queue, network⟩ := s
  simp only [follow, List.foldl_cons, List.foldl_nil, between, act, Coordinator.retire]
  split <;> simp

/-- Where nothing is half done, each count is that of the services. -/
theorem read?_between (s : Services) (c : Count) : (between s).read? c = some (c.read s) := by
  cases c with
  | backgroundTasks => simp [read?, between, Count.read, Table.keys, Table.size]
  | activeTimers | networkOperations | openConnections | openListeners | queuedCallbacks => rfl

/-! ## One deed -/

/-- What a deed can come to. -/
inductive Acts (p : Midway) : Midway → Prop where
  | nothing : Acts p p
  | elapses (now : Nat) : Acts p { p with services.timers.now := now }
  | expires (id : Nat) (live : Table Nat Timer) (hfree : p.firing = none) :
      Acts p { p with services.timers.live := live, firing := some id }
  | queuesFiring {id : Nat} (hfiring : p.firing = some id) :
      Acts p
        { p with
          services.queue := (p.services.queue.enqueue (.firing id)).2
          services.timers := p.services.timers.rearm id
          firing := none }
  /-- An operation goes on or ends.  Only one that is still to queue its callback touches handles. -/
  | operates {network : Coordinator} (leaving : List Nat)
      (hbalanced : ∀ n, p.services.network.Balanced n → network.Balanced n)
      (hflight : ∀ id, network.inFlight id = p.services.network.inFlight id)
      (hhandles : network.handles = p.services.network.handles ∨ p.Has .operation) :
      Acts p { p with services.network := network, leaving }
  | delivers {network : Coordinator} (completion : Nat) (outcome : Outcome)
      (hbalanced : ∀ n, p.services.network.Balanced n → network.Balanced n)
      (hflight : ∀ id, network.inFlight id ≤ p.services.network.inFlight id)
      (hhandles : network.handles = p.services.network.handles) :
      Acts p
        { p with
          services.network := network
          services.queue := (p.services.queue.enqueue (.completion completion outcome)).2 }

theorem handles_begin (c : Coordinator) (op : Nat) : (c.begin op).handles = c.handles := by
  rw [Coordinator.begin]
  split
  · split <;> rfl
  · rfl

theorem handles_giveUp (c : Coordinator) (op : Nat) : (c.giveUp op).handles = c.handles := by
  rw [Coordinator.giveUp]
  split
  · split
    · split <;> rfl
    · rfl
  · rfl

theorem handles_retire (c : Coordinator) (op : Nat) : (c.retire op).handles = c.handles := by
  rw [Coordinator.retire]
  split <;> rfl

/-- Only an operation that waits for its reply has one. -/
theorem handles_reply (c : Coordinator) (op : Nat) (r : Reply) :
    (c.reply op r).handles = c.handles ∨ ∃ id, 0 < c.inFlight id := by
  rw [Coordinator.reply]
  split
  · rename_i completion request hget
    have hflies := (c.inFlight_pos_iff completion).2 ⟨op, _, hget, rfl, rfl⟩
    exact .inr ⟨completion, hflies⟩
  · exact .inl rfl

theorem acts (p : Midway) (d : Deed) : Acts p (p.act d) := by
  cases d with
  | elapse millis => exact .elapses _
  | expire id =>
      rw [act]
      split
      · rename_i hfree hget
        split
        · exact .expires id _ hfree
        · exact .nothing
      · exact .nothing
  | queueFiring =>
      rw [act]
      split
      · rename_i id hfiring
        exact .queuesFiring hfiring
      · exact .nothing
  | begin op =>
      exact .operates p.leaving (fun _ h => h.begin op) (fun id => Coordinator.inFlight_begin _ op id)
        (.inl (handles_begin _ op))
  | reply op r =>
      exact .operates p.leaving (fun _ h => h.reply op r)
        (fun id => Coordinator.inFlight_reply _ op r id) (handles_reply _ op r)
  | giveUp op =>
      exact .operates p.leaving (fun _ h => h.giveUp op)
        (fun id => Coordinator.inFlight_giveUp _ op id) (.inl (handles_giveUp _ op))
  | deliver op =>
      have hflight := Coordinator.inFlight_deliver_le p.services.network p.services.queue op
      simp only [act, Services.deliver, Coordinator.deliver] at hflight ⊢
      split at hflight
      · rename_i completion request outcome hget
        exact .delivers completion outcome (fun _ h => h.setStage op _) hflight rfl
      · exact .nothing
  | uncount op =>
      rw [act]
      split
      · exact .operates _ (fun _ h => h.retire op) (fun id => Coordinator.inFlight_retire _ op id)
          (.inl (handles_retire _ op))
      · exact .nothing
  | finish op => exact .operates _ (fun _ h => h) (fun _ => rfl) (.inl rfl)

variable {q : Midway}

theorem Sound.acts (h : p.Sound) (hacts : Acts p q) : q.Sound := by
  obtain ⟨lost, hcounted⟩ := h.counted
  cases hacts with
  | nothing | elapses | expires => exact ⟨h.indexed, lost, hcounted⟩
  | queuesFiring => exact ⟨h.indexed.enqueue_firing _, lost, hcounted⟩
  | operates leaving hbalanced => exact ⟨h.indexed, lost, hbalanced lost hcounted⟩
  | delivers completion outcome hbalanced =>
      exact ⟨h.indexed.enqueue_completion _ _, lost, hbalanced lost hcounted⟩

theorem Sound.follow (deeds : List Deed) : ∀ {p : Midway}, p.Sound → (p.follow deeds).Sound := by
  induction deeds with
  | nil => exact fun h => h
  | cons d deeds ih => exact fun h => ih (h.acts (Midway.acts _ d))

theorem Acts.callback (hacts : Acts p q) (hcallback : p.Has .callback) : q.Has .callback := by
  have hstays (c : Callback) : (p.services.queue.enqueue c).2.entries ≠ [] := by
    intro hnone
    have hsublist := Host.sublist_enqueue p.services.queue c
    rw [hnone] at hsublist
    exact hcallback (List.sublist_nil.1 hsublist)
  cases hacts with
  | nothing | elapses | expires | operates => exact hcallback
  | @queuesFiring id _ => exact hstays (.firing id)
  | delivers completion outcome => exact hstays (.completion completion outcome)

theorem Acts.timer (hacts : Acts p q) (htimer : p.Has .timer) : q.Has .timer ∨ q.Has .firing := by
  cases hacts with
  | expires => exact .inr rfl
  | @queuesFiring id _ =>
      obtain ⟨other, hlive⟩ := htimer
      refine .inl ⟨other, ?_⟩
      show (p.services.timers.rearm id).isLive other = true
      rw [Timers.isLive_eq, Timers.kind?_rearm, ← Timers.isLive_eq]
      exact hlive
  | nothing | elapses | operates | delivers => exact .inl htimer

theorem Sound.firing (h : p.Sound) (hacts : Acts p q) (hfiring : p.Has .firing) :
    q.Has .firing ∨ q.Has .callback := by
  cases hacts with
  | expires => exact .inl rfl
  | @queuesFiring id _ =>
      -- whether or not it was coalesced, the timer has an entry now
      have hone := h.indexed.count_enqueue_firing id (.timer id)
      rw [if_pos rfl] at hone
      obtain ⟨c, hmem, -⟩ := (Queue.count_pos_iff _ _).1 (Nat.lt_of_lt_of_eq Nat.one_pos hone.symm)
      exact .inr (List.ne_nil_of_mem hmem)
  | nothing | elapses | operates | delivers => exact .inl hfiring

theorem Acts.operation (hacts : Acts p q) (hoperation : p.Has .operation) :
    q.Has .operation ∨ q.Has .callback := by
  cases hacts with
  | operates leaving hbalanced hflight =>
      obtain ⟨id, hflies⟩ := hoperation
      exact .inl ⟨id, Nat.lt_of_lt_of_eq hflies (hflight id).symm⟩
  | delivers completion outcome =>
      have hone := Queue.count_enqueue_completion p.services.queue completion outcome
        (.completion completion)
      rw [if_pos rfl] at hone
      obtain ⟨c, hmem, -⟩ :=
        (Queue.count_pos_iff _ _).1 (Nat.lt_of_lt_of_eq (Nat.succ_pos _) hone.symm)
      exact .inr (List.ne_nil_of_mem hmem)
  | nothing | elapses | expires | queuesFiring => exact .inl hoperation

theorem Sound.count (h : p.Sound) (hacts : Acts p q) (hcount : p.Has .count) : q.Has .count := by
  obtain ⟨lost, hcounted⟩ := h.counted
  have hbefore := hcounted.active
  have hlost : p.services.network.operations.size < p.services.network.active := hcount
  -- the balance is the same, and so is what has been lost
  have hstays {network : Coordinator} (hbalanced : network.Balanced lost) :
      network.operations.size < network.active := by
    have hafter := hbalanced.active
    omega
  cases hacts with
  | nothing | elapses | expires | queuesFiring => exact hcount
  | operates leaving hbalanced => exact hstays (hbalanced lost hcounted)
  | delivers completion outcome hbalanced => exact hstays (hbalanced lost hcounted)

/-- No deed starts an operation. -/
theorem Acts.not_operation (hacts : Acts p q) (hnone : ¬p.Has .operation) : ¬q.Has .operation := by
  rintro ⟨id, hflies⟩
  refine hnone ⟨id, ?_⟩
  cases hacts with
  | nothing | elapses | expires | queuesFiring => exact hflies
  | operates leaving hbalanced hflight => exact Nat.lt_of_lt_of_eq hflies (hflight id)
  | delivers completion outcome hbalanced hflight => exact Nat.lt_of_lt_of_le hflies (hflight id)

/-- A handle goes only by the hands of an operation that is still to queue its callback. -/
theorem Acts.handle (hacts : Acts p q) {kind : Kind} (hhandle : p.Has (.handle kind)) :
    q.Has (.handle kind) ∨ p.Has .operation ∧ q.Has .operation := by
  obtain ⟨id, hopen⟩ := hhandle
  cases hacts with
  | nothing | elapses | expires | queuesFiring => exact .inl ⟨id, hopen⟩
  | operates leaving hbalanced hflight hhandles =>
      rcases hhandles with hsame | ⟨other, hflies⟩
      · exact .inl ⟨id, (congrArg (Handles.isOpen · kind id) hsame).trans hopen⟩
      · exact .inr ⟨⟨other, hflies⟩, other, Nat.lt_of_lt_of_eq hflies (hflight other).symm⟩
  | delivers completion outcome hbalanced hflight hsame =>
      exact .inl ⟨id, (congrArg (Handles.isOpen · kind id) hsame).trans hopen⟩

/-- **Work goes from kind to kind and is never in none.** -/
theorem Sound.has_acts (h : p.Sound) (hacts : Acts p q) {w : Work} (hw : p.Has w) :
    ∃ w', w.Leads w' ∧ q.Has w' := by
  cases w with
  | timer =>
      rcases hacts.timer hw with htimer | hfiring
      · exact ⟨_, .same _, htimer⟩
      · exact ⟨_, .expire, hfiring⟩
  | firing =>
      rcases h.firing hacts hw with hfiring | hcallback
      · exact ⟨_, .same _, hfiring⟩
      · exact ⟨_, .queueFiring, hcallback⟩
  | operation =>
      rcases hacts.operation hw with hoperation | hcallback
      · exact ⟨_, .same _, hoperation⟩
      · exact ⟨_, .deliver, hcallback⟩
  | count => exact ⟨_, .same _, h.count hacts hw⟩
  | handle kind =>
      rcases hacts.handle hw with hhandle | ⟨-, hoperation⟩
      · exact ⟨_, .same _, hhandle⟩
      · exact ⟨_, .close kind, hoperation⟩
  | callback => exact ⟨_, .same _, hacts.callback hw⟩

/-! ## What is still to be counted -/

/-- What there must be if all counts before the given one have been read as zero. -/
def Owed (p : Midway) : Count → Prop
  | .backgroundTasks | .activeTimers => ∃ w, p.Has w
  | .networkOperations => ∃ w, p.Has w ∧ w ≠ .timer ∧ w ≠ .firing
  | .openConnections => p.Has .callback ∨ ¬p.Has .operation ∧ ∃ kind, p.Has (.handle kind)
  | .openListeners => p.Has .callback ∨ ¬p.Has .operation ∧ p.Has (.handle .listener)
  | .queuedCallbacks => p.Has .callback

/-- Deeds do not change what is still to be counted. -/
theorem Owed.acts {c : Count} (howed : p.Owed c) (h : p.Sound) (hacts : Acts p q) : q.Owed c := by
  have hsome (hwork : ∃ w, p.Has w) : ∃ w, q.Has w := by
    obtain ⟨w, hw⟩ := hwork
    obtain ⟨w', -, hw'⟩ := h.has_acts hacts hw
    exact ⟨w', hw'⟩
  have hopen {kind : Kind} (hnone : ¬p.Has .operation) (hhandle : p.Has (.handle kind)) :
      q.Has (.handle kind) :=
    (hacts.handle hhandle).resolve_right fun hboth => hnone hboth.1
  cases c with
  | backgroundTasks => exact hsome howed
  | activeTimers => exact hsome howed
  | networkOperations =>
      obtain ⟨w, hw, htimer, hfiring⟩ := howed
      obtain ⟨w', hleads, hw'⟩ := h.has_acts hacts hw
      refine ⟨w', hw', ?_⟩
      -- nothing turns into a timer, and only a timer into a firing
      cases hleads with
      | same => exact ⟨htimer, hfiring⟩
      | expire => exact absurd rfl htimer
      | queueFiring => exact absurd rfl hfiring
      | deliver | close => exact ⟨nofun, nofun⟩
  | openConnections =>
      rcases howed with hcallback | ⟨hnone, kind, hhandle⟩
      · exact .inl (hacts.callback hcallback)
      · exact .inr ⟨hacts.not_operation hnone, kind, hopen hnone hhandle⟩
  | openListeners =>
      rcases howed with hcallback | ⟨hnone, hhandle⟩
      · exact .inl (hacts.callback hcallback)
      · exact .inr ⟨hacts.not_operation hnone, hopen hnone hhandle⟩
  | queuedCallbacks => exact hacts.callback howed

/-- The count that is read after the given one. -/
def next? : Count → Option Count
  | .backgroundTasks => some .activeTimers
  | .activeTimers => some .networkOperations
  | .networkOperations => some .openConnections
  | .openConnections => some .openListeners
  | .openListeners => some .queuedCallbacks
  | .queuedCallbacks => none

theorem not_timer_of_read (hread : p.read? .activeTimers = some 0) :
    ¬p.Has .timer ∧ ¬p.Has .firing := by
  rw [read?] at hread
  split at hread
  · cases hread
  · rename_i hfree
    refine ⟨?_, hfree⟩
    rintro ⟨id, hlive⟩
    have hget := (Table.size_eq_zero_iff _).1 (Option.some.inj hread) id
    rw [Timers.isLive, Table.contains, hget] at hlive
    cases hlive

/-- Where no operation is counted there is none, nor the count of one that was dropped. -/
theorem Sound.not_operation_of_read (h : p.Sound) (hread : p.read? .networkOperations = some 0) :
    ¬p.Has .operation ∧ ¬p.Has .count := by
  obtain ⟨lost, hbalanced⟩ := h.counted
  have hactive : p.services.network.active = 0 := Option.some.inj hread
  have hbalance := hbalanced.active
  have hsize : p.services.network.operations.size = 0 := by omega
  constructor
  · rintro ⟨id, hflies⟩
    obtain ⟨op, o, hget, -, -⟩ := (Coordinator.inFlight_pos_iff _ id).1 hflies
    rw [(Table.size_eq_zero_iff _).1 hsize op] at hget
    cases hget
  · intro hcount
    have hlt : p.services.network.operations.size < p.services.network.active := hcount
    omega

theorem not_handle_of_count {handles : Handles} {kind : Kind} (hzero : handles.count kind = 0) :
    ¬∃ id, handles.isOpen kind id = true := by
  rintro ⟨id, hopen⟩
  rw [(Handles.count_eq_zero_iff handles kind).1 hzero id] at hopen
  cases hopen

/-- **What a count misses is told by a later one.** -/
theorem Owed.read {c : Count} (howed : p.Owed c) (h : p.Sound) (hread : p.read? c = some 0) :
    ∃ c', next? c = some c' ∧ p.Owed c' := by
  cases c with
  | backgroundTasks => exact ⟨_, rfl, howed⟩
  | activeTimers =>
      obtain ⟨htimer, hfiring⟩ := not_timer_of_read hread
      obtain ⟨w, hw⟩ := howed
      refine ⟨_, rfl, w, hw, ?_, ?_⟩
      · rintro rfl
        exact htimer hw
      · rintro rfl
        exact hfiring hw
  | networkOperations =>
      obtain ⟨hoperation, hcount⟩ := h.not_operation_of_read hread
      obtain ⟨w, hw, htimer, hfiring⟩ := howed
      refine ⟨_, rfl, ?_⟩
      cases w with
      | timer => exact absurd rfl htimer
      | firing => exact absurd rfl hfiring
      | operation => exact absurd hw hoperation
      | count => exact absurd hw hcount
      | handle kind => exact .inr ⟨hoperation, kind, hw⟩
      | callback => exact .inl hw
  | openConnections =>
      have hboth : p.services.network.handles.connections = 0 := Option.some.inj hread
      obtain ⟨hstreams, hdatagrams⟩ := Nat.add_eq_zero_iff.1 hboth
      refine ⟨_, rfl, ?_⟩
      rcases howed with hcallback | ⟨hnone, kind, hopen⟩
      · exact .inl hcallback
      · cases kind with
        | stream => exact absurd hopen (not_handle_of_count hstreams)
        | datagram => exact absurd hopen (not_handle_of_count hdatagrams)
        | listener => exact .inr ⟨hnone, hopen⟩
  | openListeners =>
      refine ⟨_, rfl, ?_⟩
      rcases howed with hcallback | ⟨-, hopen⟩
      · exact hcallback
      · exact absurd hopen (not_handle_of_count (Option.some.inj hread))
  | queuedCallbacks =>
      exact absurd (List.length_eq_zero_iff.1 (Option.some.inj hread)) howed

end Midway

/-! ## A tally -/

/-- A tally that is being taken, with the counts that have been read. -/
structure Snapshot where
  midway : Midway
  counts : List Nat

/-- What happens while a tally is being taken. -/
inductive Turn where
  | acts (d : Deed)
  /-- The next count is read, if there is one and its lock is free. -/
  | reads

namespace Snapshot

/-- The count that is read next. -/
def next? (s : Snapshot) : Option Count := Count.order[s.counts.length]?

def turn (s : Snapshot) : Turn → Snapshot
  | .acts d => { s with midway := s.midway.act d }
  | .reads =>
      match s.next?.bind s.midway.read? with
      | some n => { s with counts := s.counts ++ [n] }
      | none => s

/-- One turn after the other. -/
def run (s : Snapshot) (turns : List Turn) : Snapshot := turns.foldl turn s

/-- A count can be read when no timer holds the lock. -/
theorem turn_reads {p : Midway} (hfree : p.firing = none) {r : List Nat}
    (hleft : r.length < Count.order.length) :
    ∃ n, turn ⟨p, r⟩ .reads = ⟨p, r ++ [n]⟩ := by
  have hnext : next? ⟨p, r⟩ = some Count.order[r.length] := List.getElem?_eq_getElem hleft
  obtain ⟨n, hn⟩ : ∃ n, p.read? Count.order[r.length] = some n := by
    cases Count.order[r.length] with
    | activeTimers => simp [Midway.read?, hfree]
    | backgroundTasks | networkOperations | openConnections | openListeners | queuedCallbacks =>
        exact ⟨_, rfl⟩
  refine ⟨n, ?_⟩
  rw [turn, hnext, Option.bind_some, hn]

theorem run_reads {p : Midway} (hfree : p.firing = none) (k : Nat) : ∀ {r : List Nat},
    r.length + k ≤ Count.order.length →
      (run ⟨p, r⟩ (List.replicate k .reads)).counts.length = r.length + k := by
  induction k with
  | zero => exact fun _ => rfl
  | succ k ih =>
      intro r hleft
      obtain ⟨n, hturn⟩ := turn_reads hfree (r := r) (by omega)
      have hlength : (r ++ [n]).length = r.length + 1 := by simp
      have hrest := ih (r := r ++ [n]) (by omega)
      rw [List.replicate_succ, run, List.foldl_cons, hturn, ← run, hrest, hlength]
      omega

/-- A tally can always be brought to its end: the timer that holds the lock needs nobody else. -/
theorem completes (s : Snapshot) (hleft : s.counts.length ≤ Count.order.length) :
    (s.run (.acts .queueFiring ::
      List.replicate (Count.order.length - s.counts.length) .reads)).counts.length =
        Count.order.length := by
  have hfree : (s.midway.act .queueFiring).firing = none := by
    rw [Midway.act]
    split
    · rfl
    · assumption
  have hrun := run_reads hfree (Count.order.length - s.counts.length) (r := s.counts) (by omega)
  rw [Nat.add_sub_cancel' hleft] at hrun
  exact hrun

/-- The counts that have been read are not all zero, or there is something left for the others. -/
def Owes (s : Snapshot) : Prop :=
  0 < together s.counts ∨ ∃ c, s.next? = some c ∧ s.midway.Owed c

theorem getElem?_order_succ {k : Nat} {c : Count} (hc : Count.order[k]? = some c) :
    Count.order[k + 1]? = Midway.next? c := by
  match k with
  | 0 | 1 | 2 | 3 | 4 | 5 =>
      cases hc
      rfl
  | k + 6 => cases hc

variable {s : Snapshot}

theorem Owes.turn (howes : s.Owes) (hsound : s.midway.Sound) (t : Turn) : (s.turn t).Owes := by
  cases t with
  | acts d => exact howes.imp_right fun ⟨c, hc, howed⟩ => ⟨c, hc, howed.acts hsound (Midway.acts _ d)⟩
  | reads =>
      rw [Snapshot.turn]
      split
      · rename_i n hread
        obtain ⟨c, hc, hn⟩ := Option.bind_eq_some_iff.1 hread
        have htogether : together (s.counts ++ [n]) = together s.counts + n :=
          together_append s.counts [n]
        by_cases hpos : 0 < together s.counts + n
        · exact .inl (Nat.lt_of_lt_of_eq hpos htogether.symm)
        · -- all counts so far are zero, this one among them
          have hzero : n = 0 := by omega
          rcases howes with hcounted | ⟨c', hc', howed⟩
          · exact absurd (Nat.lt_add_right n hcounted) hpos
          · obtain rfl : c' = c := Option.some.inj (hc'.symm.trans hc)
            obtain ⟨next, hnext, howed'⟩ := howed.read hsound (hzero ▸ hn)
            refine .inr ⟨next, ?_, howed'⟩
            rw [Snapshot.next?, List.length_append]
            exact (getElem?_order_succ hc).trans hnext
      · exact howes

theorem sound_turn (hsound : s.midway.Sound) (t : Turn) : (s.turn t).midway.Sound := by
  cases t with
  | acts d => exact hsound.acts (Midway.acts _ d)
  | reads =>
      rw [turn]
      split <;> exact hsound

theorem Owes.run (turns : List Turn) : ∀ {s : Snapshot}, s.Owes → s.midway.Sound →
    (s.run turns).Owes := by
  induction turns with
  | nil => exact fun howes _ => howes
  | cons t turns ih => exact fun howes hsound => ih (howes.turn hsound t) (sound_turn hsound t)

/-- Where no start of an operation is half done, whatever a tally would count before its first reading
is counted at that reading or left for the later ones. -/
theorem owes_of_first {p : Midway} (hlisted : p.unlisted = none)
    (hwork : 0 < outstanding p.services ∨ p.leaving ≠ []) :
    (turn ⟨p, []⟩ .reads).Owes := by
  have hread : p.read? .backgroundTasks =
      some (p.services.network.operations.size + p.leaving.length) := by
    simp [Midway.read?, hlisted, Table.keys, Table.size]
  have hturn : turn ⟨p, []⟩ .reads =
      ⟨p, [p.services.network.operations.size + p.leaving.length]⟩ := by
    have hnext : next? ⟨p, []⟩ = some .backgroundTasks := rfl
    rw [turn, hnext, Option.bind_some, hread]
    rfl
  rw [hturn]
  by_cases htasks : 0 < p.services.network.operations.size + p.leaving.length
  · exact .inl htasks
  · -- no task is left, so it is one of the other counts
    refine .inr ⟨.activeTimers, rfl, ?_⟩
    have hleaving : p.leaving = [] := List.length_eq_zero_iff.1 (by omega)
    have hpositive : 0 < outstanding p.services := hwork.resolve_right (not_not_intro hleaving)
    refine Classical.byContradiction fun hnothing => ?_
    have hnone (w : Work) : ¬p.Has w := fun hw => hnothing ⟨w, hw⟩
    have hsettled : p.services.Settled := {
      timers := fun id => Bool.eq_false_iff.2 fun hlive => hnone .timer ⟨id, hlive⟩
      operations := (Table.size_eq_zero_iff _).1 (by omega)
      active := by
        have hcount : ¬p.services.network.operations.size < p.services.network.active :=
          hnone .count
        omega
      handles := fun id kind => Bool.eq_false_iff.2 fun hopen => hnone (.handle kind) ⟨id, hopen⟩
      queue := Classical.not_not.1 (hnone .callback) }
    have hzero := (Quiescence.outstanding_eq_zero_iff p.services).2 hsettled
    omega

end Snapshot

/-! ## The services of a host -/

theorem Desk.Effect.indexed {F : Type} {s s' : Services} {closures closures' : Closures F}
    {request : Desk.Ask F} (heffect : Desk.Effect s closures request s' closures')
    (hindexed : s.queue.Indexed) : s'.queue.Indexed := by
  cases heffect with
  | clears id => exact hindexed.discard id
  | nothing | creates | starts | closes => exact hindexed

namespace Host

variable {F μ : Type} {l : Language F μ} {h : Host (State F μ)} {batch : List Callback}

theorem indexed_react (hindexed : h.services.queue.Indexed) (hshaped : Shaped l batch h.interpreter)
    (e : Event) : (react l.guest h e).services.queue.Indexed := by
  cases e with
  | work =>
      rw [react]
      rcases services_work hshaped with ⟨request, closures', heffect⟩ | hdrained | hsame
      · exact heffect.indexed hindexed
      · rw [hdrained]
        exact Queue.indexed_drain _
      · rw [hsame]
        exact hindexed
  | takeJob =>
      rw [react, services_takeJob]
      exact hindexed
  | disconnect =>
      rw [react, services_disconnect]
      exact hindexed
  | takeToken =>
      rw [react, takeToken?]
      split
      · rename_i htoken
        rw [← (Prod.mk.inj htoken).2]
        exact hindexed
      · exact hindexed
  | stop =>
      rw [react, services_stop]
      exact hindexed
  | wakeTimer id =>
      show (h.services.wakeTimer id).queue.Indexed
      rw [Services.wakeTimer]
      split
      · show (h.services.timers.fireAt h.services.queue id h.services.now).2.Indexed
        rw [Timers.queue_fireAt]
        split
        · exact hindexed.enqueue_firing id
        · exact hindexed
      · exact hindexed
  | cancelTimer id => exact hindexed.discard id
  | discard id => exact hindexed.discard id
  | deliver op =>
      show (h.services.network.deliver h.services.queue op).2.Indexed
      rw [Coordinator.deliver]
      split
      · exact hindexed.enqueue_completion _ _
      · exact hindexed
  | tearDown => exact Queue.indexed_clear _
  | conclude =>
      rw [react, conclude]
      split
      · exact hindexed
      · exact Queue.indexed_clear _
  | drop =>
      rw [react, drop]
      split
      · show (Timers.discardAll h.stop.services.queue _).Indexed
        rw [services_stop]
        exact (Desk.Covers.discardAll_le hindexed _).1
      · exact hindexed
  | offer c => exact hindexed.offer c
  | submit | enter | giveUp | collect | elapse | begin | reply | giveUpOperation | retire | signal
  | cloneBridge | dropBridge => exact hindexed

theorem indexed_run (events : List Event) : ∀ {h : Host (State F μ)} {batch : List Callback},
    h.services.queue.Indexed → Shaped l batch h.interpreter →
      (run l.guest h events).services.queue.Indexed := by
  induction events with
  | nil => exact fun hindexed _ => hindexed
  | cons e events ih =>
      exact fun hindexed hshaped => ih (indexed_react hindexed hshaped e) (hshaped.react e)

/-- Whatever has happened to a host, its services are sound, be a start of an operation half done or
not; and deeds leave them so. -/
theorem sound_of_run (l : Language F μ) (memory : μ) (capacity : Nat) (events : List Event)
    (unlisted : Option Nat) (deeds : List Deed) :
    (Midway.follow ⟨(run l.guest (fresh capacity (State.start memory)) events).services, none,
      unlisted, []⟩ deeds).Sound := by
  have hshaped : Shaped l [] (fresh capacity (State.start (F := F) memory)).interpreter := .between rfl
  have hsound : Midway.Sound ⟨(run l.guest (fresh capacity (State.start memory)) events).services,
      none, unlisted, []⟩ := {
    indexed := indexed_run events Queue.indexed_empty hshaped
    counted := ⟨_, balanced_run events Coordinator.balanced_empty hshaped⟩ }
  exact hsound.follow deeds

end Host

/-- **A torn tally is never falsely idle.**  Let there be a live timer, a timer that fires, an
operation that is still to queue its callback, an open handle or a queued callback when a tally is
begun.  Whatever timers and operations do before its first reading and between any two readings, the
six counts that it comes to are not all zero; so it is not idle, unless they are too many for a word.

Where the first reading comes first and no start of an operation is half done, this is so already if
any of the six counts was not zero, or a task had not ended. -/
theorem torn_tally_is_not_idle {p : Midway} (hsound : p.Sound) (turns : List Turn)
    (hwork : (∃ w, p.Has w) ∨ p.unlisted = none ∧ (∃ later, turns = .reads :: later) ∧
      (0 < outstanding p.services ∨ p.leaving ≠ []))
    (hall : (Snapshot.run ⟨p, []⟩ turns).counts.length = Count.order.length) :
    0 < together (Snapshot.run ⟨p, []⟩ turns).counts ∧
      (together (Snapshot.run ⟨p, []⟩ turns).counts < UInt64.size →
        (Tally.ofCounts (Snapshot.run ⟨p, []⟩ turns).counts).isIdle? = some false) := by
  have howes : (Snapshot.run ⟨p, []⟩ turns).Owes := by
    rcases hwork with hhas | ⟨hlisted, ⟨later, rfl⟩, hcounts⟩
    · have hbegun : Snapshot.Owes ⟨p, []⟩ := .inr ⟨.backgroundTasks, rfl, hhas⟩
      exact hbegun.run turns hsound
    · exact (Snapshot.owes_of_first hlisted hcounts).run later (Snapshot.sound_turn hsound .reads)
  have hpositive : 0 < together (Snapshot.run ⟨p, []⟩ turns).counts := by
    rcases howes with hpositive | ⟨c, hc, -⟩
    · exact hpositive
    · rw [Snapshot.next?, hall] at hc
      cases hc
  refine ⟨hpositive, fun hfits => ?_⟩
  rw [Quiescence.isIdle?_ofCounts hall hfits, decide_eq_false (Nat.ne_of_gt hpositive)]

/-- A script has set a timer. -/
def alarmSet : Midway :=
  .between (Host.run Host.alarms.guest (.fresh 1 (.start ()))
    [.submit false "" "" 0, .enter 1, .takeJob, .work, .work]).services

/-- The timer is taken out when the tasks have been counted.  The reading of the live timers waits for
its lock, and by then the firing is queued. -/
def alarmTorn : List Turn :=
  [.reads, .acts (.expire 1), .reads, .acts .queueFiring, .reads, .reads, .reads, .reads, .reads]

/-- The firing is counted in the queue. -/
theorem torn_tally_of_alarm :
    (Snapshot.run ⟨alarmSet, []⟩ alarmTorn).counts = [0, 0, 0, 0, 0, 1] ∧
      (Tally.ofCounts (Snapshot.run ⟨alarmSet, []⟩ alarmTorn).counts).isIdle? = some false := by
  have hsound : alarmSet.Sound := Host.sound_of_run Host.alarms () 1 _ none []
  have hlive : alarmSet.Has .timer := ⟨1, rfl⟩
  have hcounts : (Snapshot.run ⟨alarmSet, []⟩ alarmTorn).counts = [0, 0, 0, 0, 0, 1] := rfl
  have hall : (Snapshot.run ⟨alarmSet, []⟩ alarmTorn).counts.length = Count.order.length := by
    rw [hcounts]
    rfl
  have hfits : together (Snapshot.run ⟨alarmSet, []⟩ alarmTorn).counts < UInt64.size := by
    rw [hcounts]
    decide
  exact ⟨hcounts, (torn_tally_is_not_idle hsound alarmTorn (.inl ⟨.timer, hlive⟩) hall).2 hfits⟩

end ScriptHost
