import ScriptHost.Guest.Script
import ScriptHost.Proofs.Ready.Deeds

/-!
# What a dispatch pass hands over

A pass takes the entries out of the queue before it hands over the first of them, so the closures that it
runs get at a queue without these entries: whatever they do to it, the rest of the batch stays what it is.

A guest of a pass is any function on queue and guest that changes the queue by deeds alone (`Client`).
`Client.recorded` is the same guest with a record of its calls.  The record of a pass is the batch, call for
call, and the queue afterwards is made from nothing by the deeds in the record
(`dispatch_handles_snapshot`).  Only a panic ends a pass early.
-/

namespace ScriptHost.Ready

open Queue (Deed Reply)

/-! ## Guests and their records -/

namespace Finish

def isInvoked : Finish Invocation → Bool
  | .returned .invoked => true
  | _ => false

def isSkipped : Finish Invocation → Bool
  | .returned .skipped => true
  | _ => false

def isRaised : Finish Invocation → Bool
  | .raised _ => true
  | _ => false

def isPanic : Finish Invocation → Bool
  | .panicked _ => true
  | _ => false

theorem exists_panicked {finish : Finish Invocation} (hpanic : finish.isPanic = true) :
    ∃ message, finish = .panicked message := by
  cases finish with
  | panicked message => exact ⟨message, rfl⟩
  | returned | raised => cases hpanic

/-- Every ending but a panic is one of the three. -/
theorem counted_once (finish : Finish Invocation) (hcalm : finish.isPanic = false) :
    (if finish.isInvoked then 1 else 0) + (if finish.isSkipped then 1 else 0) +
      (if finish.isRaised then 1 else 0) = 1 := by
  cases finish with
  | returned how => cases how <;> rfl
  | raised => rfl
  | panicked => cases hcalm

end Finish

theorem PassCounts.add_eq (n : PassCounts) (finish : Finish Invocation) :
    n.add finish =
      ⟨n.invoked + if finish.isInvoked then 1 else 0, n.skipped + if finish.isSkipped then 1 else 0,
        n.failed + if finish.isRaised then 1 else 0⟩ := by
  cases finish with
  | returned how => cases how <;> rfl
  | raised | panicked => rfl

/-- A guest that gets at the queue by deeds alone.  What it does may depend on all that it sees, the queue
included. -/
structure Client (σ : Type) where
  invoke : Invoke (Queue × σ)
  /-- What is done to the queue while the closure of a callback runs. -/
  deeds : Callback → Queue × σ → List Deed
  queue_invoke : ∀ c world, (invoke c world).2.1 = (world.1.performAll (deeds c world)).2

/-- The record of one call of a guest. -/
structure Visit where
  callback : Callback
  finish : Finish Invocation
  deeds : List Deed
  replies : List Reply

namespace Client

variable {σ : Type} (g : Client σ)

/-- The record of the call for a callback. -/
def visit (c : Callback) (world : Queue × σ) : Visit :=
  ⟨c, (g.invoke c world).1, g.deeds c world, (world.1.performAll (g.deeds c world)).1⟩

/-- The same guest, with a record of its calls. -/
def recorded : Invoke (Queue × (σ × List Visit)) := fun c world =>
  let before := (world.1, world.2.1)
  ((g.invoke c before).1, (g.invoke c before).2.1, (g.invoke c before).2.2,
    world.2.2 ++ [g.visit c before])

end Client

/-! ## A batch -/

/-- The calls that are made for a batch: one for each callback in its order, up to one that panics. -/
inductive Handled : List Callback → List Visit → Option String → Prop where
  | done : Handled [] [] none
  | broken {v : Visit} {message : String} (rest : List Callback) :
      v.finish = .panicked message → Handled (v.callback :: rest) [v] (some message)
  | next {v : Visit} {rest : List Callback} {visits : List Visit} {panic : Option String} :
      v.finish.isPanic = false → Handled rest visits panic →
      Handled (v.callback :: rest) (v :: visits) panic

namespace Handled

variable {batch : List Callback} {visits : List Visit} {panic : Option String}

/-- Without a panic every callback is handed over. -/
theorem all (h : Handled batch visits panic) (hpanic : panic = none) :
    visits.map Visit.callback = batch := by
  induction h with
  | done => rfl
  | broken => cases hpanic
  | next _ _ ih => exact congrArg _ (ih hpanic)

theorem panic_eq_none_iff (h : Handled batch visits panic) :
    panic = none ↔ ∀ v ∈ visits, v.finish.isPanic = false := by
  induction h with
  | done => exact iff_of_true rfl nofun
  | @broken v message rest hfinish =>
      refine iff_of_false nofun fun hall => ?_
      have hcalm := hall v List.mem_cons_self
      rw [hfinish] at hcalm
      cases hcalm
  | next hcalm _ ih => rw [ih, List.forall_mem_cons, and_iff_right hcalm]

/-- The call that panics is the last one, and the callbacks behind it are not handed over. -/
theorem broken_off (h : Handled batch visits panic) {message : String}
    (hpanic : panic = some message) :
    ∃ before last rest, visits = before ++ [last] ∧ last.finish = .panicked message ∧
      batch = visits.map Visit.callback ++ rest := by
  induction h with
  | done => cases hpanic
  | @broken v other rest hfinish =>
      cases hpanic
      exact ⟨[], v, rest, rfl, hfinish, rfl⟩
  | @next v rest visits panic _ _ ih =>
      obtain ⟨before, last, unseen, rfl, hfinish, hbatch⟩ := ih hpanic
      exact ⟨v :: before, last, unseen, rfl, hfinish, congrArg (v.callback :: ·) hbatch⟩

end Handled

/-- Counts that have grown by some calls. -/
structure PassCounts.Counted (n : PassCounts) (visits : List Visit) (m : PassCounts) : Prop where
  invoked : m.invoked = n.invoked + visits.countP (·.finish.isInvoked)
  skipped : m.skipped = n.skipped + visits.countP (·.finish.isSkipped)
  failed : m.failed = n.failed + visits.countP (·.finish.isRaised)

namespace PassCounts.Counted

variable {n m : PassCounts} {visits : List Visit}

theorem nil (n : PassCounts) : Counted n [] n := ⟨rfl, rfl, rfl⟩

theorem cons {v : Visit} (h : Counted (n.add v.finish) visits m) : Counted n (v :: visits) m := by
  obtain ⟨hinvoked, hskipped, hfailed⟩ := h
  rw [add_eq] at hinvoked hskipped hfailed
  dsimp only at hinvoked hskipped hfailed
  constructor <;> rw [List.countP_cons] <;> omega

theorem eq_of_zero (h : Counted zero visits m) :
    m = ⟨visits.countP (·.finish.isInvoked), visits.countP (·.finish.isSkipped),
      visits.countP (·.finish.isRaised)⟩ := by
  obtain ⟨invoked, skipped, failed⟩ := m
  obtain ⟨hinvoked, hskipped, hfailed⟩ := h
  simp only [zero, Nat.zero_add] at hinvoked hskipped hfailed
  rw [hinvoked, hskipped, hfailed]

/-- If no call panics, each of them is counted once. -/
theorem total (h : Counted n visits m) (hcalm : ∀ v ∈ visits, v.finish.isPanic = false) :
    m.total = n.total + visits.length := by
  have hlength : visits.length = visits.countP (·.finish.isInvoked) +
      visits.countP (·.finish.isSkipped) + visits.countP (·.finish.isRaised) := by
    clear h
    induction visits with
    | nil => rfl
    | cons v visits ih =>
        obtain ⟨hfirst, hrest⟩ := List.forall_mem_cons.1 hcalm
        have hone := v.finish.counted_once hfirst
        have hrest := ih hrest
        simp only [List.length_cons, List.countP_cons]
        omega
  rw [PassCounts.total, PassCounts.total, h.invoked, h.skipped, h.failed]
  omega

end PassCounts.Counted

theorem deliver_of_panic {σ : Type} {invoke : Invoke σ} {c : Callback} {world : σ} {message : String}
    (hpanic : (invoke c world).1 = .panicked message) (rest : List Callback) (n : PassCounts) :
    deliver invoke (c :: rest) n world = (n, some message, (invoke c world).2) := by
  rw [deliver]
  generalize invoke c world = result at hpanic ⊢
  obtain ⟨finish, after⟩ := result
  cases hpanic
  rfl

theorem deliver_of_calm {σ : Type} {invoke : Invoke σ} {c : Callback} {world : σ}
    (hcalm : (invoke c world).1.isPanic = false) (rest : List Callback) (n : PassCounts) :
    deliver invoke (c :: rest) n world =
      deliver invoke rest (n.add (invoke c world).1) (invoke c world).2 := by
  rw [deliver]
  generalize invoke c world = result at hcalm ⊢
  obtain ⟨finish, after⟩ := result
  cases finish with
  | returned | raised => rfl
  | panicked => cases hcalm

namespace Client

variable {σ : Type} (g : Client σ)

/-- The calls that are made for a batch. -/
def visits : List Callback → Queue × σ → List Visit
  | [], _ => []
  | c :: rest, world =>
      g.visit c world :: if (g.invoke c world).1.isPanic then [] else visits rest (g.invoke c world).2

/-- A pass follows its batch: it is at the end, or a call panics, or it goes on. -/
theorem pass_induction {motive : List Callback → PassCounts → Queue × σ → Prop}
    (ends : ∀ n world, motive [] n world)
    (breaks : ∀ c rest n world message, (g.invoke c world).1 = .panicked message →
      motive (c :: rest) n world)
    (goes : ∀ c rest n world, (g.invoke c world).1.isPanic = false →
      motive rest (n.add (g.invoke c world).1) (g.invoke c world).2 → motive (c :: rest) n world)
    (batch : List Callback) : ∀ (n : PassCounts) (world : Queue × σ), motive batch n world := by
  induction batch with
  | nil => exact ends
  | cons c rest ih =>
      intro n world
      cases hpanic : (g.invoke c world).1.isPanic with
      | true =>
          obtain ⟨message, hmessage⟩ := Finish.exists_panicked hpanic
          exact breaks c rest n world message hmessage
      | false => exact goes c rest n world hpanic (ih _ _)

variable {g} {c : Callback} {world : Queue × σ}

theorem visits_of_panic {message : String} (hpanic : (g.invoke c world).1 = .panicked message)
    (rest : List Callback) : g.visits (c :: rest) world = [g.visit c world] := by
  rw [visits, hpanic]
  rfl

theorem visits_of_calm (hcalm : (g.invoke c world).1.isPanic = false) (rest : List Callback) :
    g.visits (c :: rest) world = g.visit c world :: g.visits rest (g.invoke c world).2 := by
  rw [visits, hcalm, if_neg Bool.false_ne_true]

variable (g)

theorem handled_visits (batch : List Callback) (n : PassCounts) (world : Queue × σ) :
    Handled batch (g.visits batch world) (deliver g.invoke batch n world).2.1 := by
  induction batch, n, world using g.pass_induction with
  | ends => exact .done
  | breaks c rest n world message hpanic =>
      rw [visits_of_panic hpanic, deliver_of_panic hpanic]
      exact .broken (v := g.visit c world) rest hpanic
  | goes c rest n world hcalm ih =>
      rw [visits_of_calm hcalm, deliver_of_calm hcalm]
      exact .next (v := g.visit c world) hcalm ih

theorem counted_visits (batch : List Callback) (n : PassCounts) (world : Queue × σ) :
    n.Counted (g.visits batch world) (deliver g.invoke batch n world).1 := by
  induction batch, n, world using g.pass_induction with
  | ends n => exact .nil n
  | breaks c rest n world message hpanic =>
      have hsame : n.add (g.visit c world).finish = n := congrArg n.add hpanic
      rw [visits_of_panic hpanic, deliver_of_panic hpanic]
      exact .cons (hsame.symm ▸ .nil n)
  | goes c rest n world hcalm ih =>
      rw [visits_of_calm hcalm, deliver_of_calm hcalm]
      exact .cons ih

/-- The deeds of the calls, one after the other, are all that happens to the queue. -/
theorem performAll_visits (batch : List Callback) (n : PassCounts) (world : Queue × σ) :
    world.1.performAll ((g.visits batch world).flatMap Visit.deeds) =
      ((g.visits batch world).flatMap Visit.replies, (deliver g.invoke batch n world).2.2.1) := by
  have hfirst : ∀ c world, world.1.performAll (g.visit c world).deeds =
      ((g.visit c world).replies, (g.invoke c world).2.1) :=
    fun c world => Prod.ext rfl (g.queue_invoke c world).symm
  induction batch, n, world using g.pass_induction with
  | ends => rfl
  | breaks c rest n world message hpanic =>
      rw [visits_of_panic hpanic, deliver_of_panic hpanic, List.flatMap_singleton,
        List.flatMap_singleton, hfirst]
  | goes c rest n world hcalm ih =>
      rw [visits_of_calm hcalm, deliver_of_calm hcalm, List.flatMap_cons, List.flatMap_cons,
        Queue.performAll_append, hfirst, ih]

/-- Keeping a record changes nothing else. -/
theorem deliver_recorded (batch : List Callback) (n : PassCounts) (world : Queue × σ) :
    ∀ log : List Visit, deliver g.recorded batch n (world.1, world.2, log) =
      ((deliver g.invoke batch n world).1, (deliver g.invoke batch n world).2.1,
        (deliver g.invoke batch n world).2.2.1, (deliver g.invoke batch n world).2.2.2,
        log ++ g.visits batch world) := by
  have hsame : ∀ c world log, (g.recorded c (world.1, world.2, log)).1 = (g.invoke c world).1 :=
    fun _ _ _ => rfl
  induction batch, n, world using g.pass_induction with
  | ends n world =>
      intro log
      rw [visits, List.append_nil]
      rfl
  | breaks c rest n world message hpanic =>
      intro log
      rw [visits_of_panic hpanic, deliver_of_panic hpanic,
        deliver_of_panic ((hsame c world log).trans hpanic)]
      rfl
  | goes c rest n world hcalm ih =>
      intro log
      rw [visits_of_calm hcalm, deliver_of_calm hcalm,
        deliver_of_calm ((congrArg Finish.isPanic (hsame c world log)).trans hcalm)]
      refine (ih (log ++ [g.visit c world])).trans ?_
      rw [List.append_assoc]
      rfl

theorem panic_eq_none (hcalm : ∀ c world, (g.invoke c world).1.isPanic = false) (batch : List Callback)
    (n : PassCounts) (world : Queue × σ) : (deliver g.invoke batch n world).2.1 = none := by
  induction batch, n, world using g.pass_induction with
  | ends => rfl
  | breaks c rest n world message hpanic =>
      have hnot := hcalm c world
      rw [hpanic] at hnot
      cases hnot
  | goes c rest n world hcalm' ih => rwa [deliver_of_calm hcalm']

end Client

end ScriptHost.Ready

/-! ## Scripted guests -/

namespace ScriptHost.Guest

open Ready
open Ready.Queue (Deed)

/-- What an action does to the queue. -/
def Action.deed? : Action → Option Deed
  | .enqueue c => some (.call (.enqueue c))
  | .drain => some (.call .drain)
  | .discard timer => some (.call (.discard timer))
  | .clear => some (.call .clear)
  | .takeToken => some .takeToken
  | .insertTimer .. | .insertCompletion .. | .release .. | .releaseAll | .unknown .. => none

theorem queue_performAll (actions : List Action) : ∀ world : Queue × Scripted,
    (performAll world actions).2.1 = (world.1.performAll (actions.filterMap Action.deed?)).2 := by
  induction actions with
  | nil => exact fun _ => rfl
  | cons a actions ih =>
      intro world
      refine (ih (a.perform world).2).trans ?_
      cases a <;> rfl

/-- What the closure of a callback does to the queue. -/
def Scripted.deeds (c : Callback) (world : Queue × Scripted) : List Deed :=
  match (world.2.closures.resolve c.target).1 with
  | none => []
  | some (.retained (.mk _ actions _)) | some (.removed (.mk _ actions _)) =>
      actions.filterMap Action.deed?

theorem Scripted.queue_invoke (c : Callback) (world : Queue × Scripted) :
    (Scripted.invoke c world).2.1 = (world.1.performAll (Scripted.deeds c world)).2 := by
  rw [Scripted.invoke, Scripted.deeds]
  generalize world.2.closures.resolve c.target = looked
  obtain ⟨found, closures⟩ := looked
  rcases found with _ | ⟨⟨name, actions, ending⟩⟩ | ⟨⟨name, actions, ending⟩⟩
  · rfl
  · exact queue_performAll actions _
  · exact queue_performAll actions _

/-- Scripted guests get at the queue by deeds alone. -/
def Scripted.client : Client Scripted := ⟨Scripted.invoke, Scripted.deeds, Scripted.queue_invoke⟩

end ScriptHost.Guest

/-! ## A pass -/

namespace ScriptHost.Ready

theorem dispatch_of_owner {σ : Type} {d : Dispatcher} {thread : Nat} (hthread : thread = d.owner)
    (invoke : Invoke (Queue × σ)) (q : Queue) (s : σ) :
    d.dispatch thread invoke (q, s) =
      (.ok ((deliver invoke q.entries .zero (q.drain.2, s)).1,
          (deliver invoke q.entries .zero (q.drain.2, s)).2.1),
        (deliver invoke q.entries .zero (q.drain.2, s)).2.2) := if_pos hthread

/-- **A pass handles exactly its snapshot.**  Whatever is in the queue and whatever the guest does to it,
a pass on the thread of its owner calls the guest for the entries that were queued at the start, once each,
in their order and with what they carry, unless a call panics: then that one is the last.  Each count is the
number of calls with that ending.

The deeds of the guest get the replies of an empty queue, and the queue afterwards is what they make of an
empty queue, the counts added to those before.  A firing is coalesced during the pass only if the guest has
had another one of the same timer accepted since the pass began.

On any other thread nothing happens at all. -/
theorem dispatch_handles_snapshot {σ : Type} (g : Client σ) (d : Dispatcher) (thread : Nat) (q : Queue)
    (s : σ) :
    (thread ≠ d.owner → ∀ log,
      d.dispatch thread g.recorded (q, s, log) = (.error .wrongThread, q, s, log)) ∧
    (thread = d.owner → ∃ counts panic q' s' visits,
      d.dispatch thread g.invoke (q, s) = (.ok (counts, panic), q', s') ∧
      (∀ log, d.dispatch thread g.recorded (q, s, log) =
        (.ok (counts, panic), q', s', log ++ visits)) ∧
      (panic = none → visits.map Visit.callback = q.entries ∧ counts.total = q.size) ∧
      (∀ message, panic = some message → ∃ before last rest, visits = before ++ [last] ∧
        last.finish = .panicked message ∧ q.entries = visits.map Visit.callback ++ rest) ∧
      (panic = none ↔ ∀ v ∈ visits, v.finish.isPanic = false) ∧
      ((∀ c world, (g.invoke c world).1.isPanic = false) → panic = none) ∧
      counts = ⟨visits.countP (·.finish.isInvoked), visits.countP (·.finish.isSkipped),
        visits.countP (·.finish.isRaised)⟩ ∧
      let emptied := (Queue.vacated q.token).performAll (visits.flatMap Visit.deeds)
      visits.flatMap Visit.replies = emptied.1 ∧
      q' = emptied.2.recount q.accepted q.coalesced ∧
      ∀ before c after, visits.flatMap Visit.replies = before ++ .record (.enqueued c false) :: after →
        ∃ other, .record (.enqueued other true) ∈ before ∧ other.target = c.target) := by
  refine ⟨fun hthread log => if_neg hthread, fun hthread => ?_⟩
  let world := (q.drain.2, s)
  let after := deliver g.invoke q.entries .zero world
  have hhandled : Handled q.entries (g.visits q.entries world) after.2.1 := g.handled_visits _ _ _
  have hcounted : PassCounts.zero.Counted (g.visits q.entries world) after.1 := g.counted_visits _ _ _
  -- but for its counts the queue is empty when the first call is made
  have hqueue := g.performAll_visits q.entries .zero world
  rw [show world.1 = _ from Queue.drain_eq_recount q, Queue.performAll_recount] at hqueue
  obtain ⟨hreplies, hafter⟩ := Prod.ext_iff.1 hqueue
  refine ⟨after.1, after.2.1, after.2.2.1, after.2.2.2, g.visits q.entries world,
    dispatch_of_owner hthread g.invoke q s, fun log => ?_, fun hpanic => ?_,
    fun message => hhandled.broken_off, hhandled.panic_eq_none_iff,
    fun hcalm => g.panic_eq_none hcalm _ _ _, hcounted.eq_of_zero, hreplies.symm, hafter.symm, ?_⟩
  · rw [dispatch_of_owner hthread, g.deliver_recorded q.entries .zero world log]
  · have hall := hhandled.all hpanic
    have htotal := hcounted.total (hhandled.panic_eq_none_iff.1 hpanic)
    rw [← List.length_map Visit.callback, hall] at htotal
    exact ⟨hall, htotal.trans (Nat.zero_add _)⟩
  · intro before c after hsplit
    exact (Queue.owes_vacated q.token).coalesced _ before c after (hreplies.trans hsplit)

/-- The first closure of a batch clears the queue, discards the timer of the second, offers the firing of its
own timer twice, and raises.  The other two entries are handed over all the same, and of the two firings the
first is accepted. -/
theorem unruly_closure_changes_no_batch :
    let unruly : Guest.Script :=
      .mk "unruly" [.clear, .discard 2, .enqueue (.firing 1), .enqueue (.firing 1)] (.raise "boom")
    let closures := (Closures.empty.insertTimer 1 unruly true).insertTimer 2 (.mk "calm" [] .return_) true
    let calls : List Queue.Call :=
      [.enqueue (.firing 1), .enqueue (.firing 2), .enqueue (.completion 9 .noData)]
    ∃ q' s' visits,
      (⟨0⟩ : Dispatcher).dispatch 0 Guest.Scripted.client.recorded
        ((Queue.empty.follow calls).2, ⟨closures, []⟩, []) = (.ok (⟨1, 1, 1⟩, none), q', s', visits) ∧
      visits.map Visit.callback = [.firing 1, .firing 2, .completion 9 .noData] ∧
      q'.entries = [.firing 1] ∧ q'.coalesced = 1 := by
  intro unruly closures calls
  obtain ⟨counts, panic, q', s', visits, hrun, hrecord, hall, -⟩ :=
    (dispatch_handles_snapshot Guest.Scripted.client ⟨0⟩ 0 (Queue.empty.follow calls).2
      ⟨closures, []⟩).2 rfl
  have hdone : (⟨0⟩ : Dispatcher).dispatch 0 Guest.Scripted.client.invoke
      ((Queue.empty.follow calls).2, ⟨closures, []⟩) = (.ok (⟨1, 1, 1⟩, none), _, _) := rfl
  rw [hdone] at hrun
  cases hrun
  exact ⟨_, _, visits, hrecord [], (hall rfl).1, rfl, rfl⟩

end ScriptHost.Ready
