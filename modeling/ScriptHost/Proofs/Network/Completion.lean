import Mathlib.Data.List.Nodup
import ScriptHost.Proofs.Network.Record
import ScriptHost.Proofs.Ready.Index
import ScriptHost.Proofs.Ready.Registered

/-!
# Every operation completes once

The record of each operation says what it has queued.  The numbers of completions come from the
table of closures and each is given to one operation (`Allotted`), so what has been queued for a
completion is what its one operation has queued.

While an operation has not queued its callback its task is in the table of operations, and every
task there is counted (`Coordinator.Balanced`).  Once the system has replied, or the operation has
ended its wait in another way, its own steps lead to its end (`CanEnd`).
-/

namespace ScriptHost.Network

open Ready (Callback Closures Outcome Queue)

/-- The callback that is queued with an event. -/
def Event.callback? : Event → Option Callback
  | .op _ (.queue callback) => some callback
  | _ => none

/-- The operation that starts with an event, and its completion. -/
def Event.start? : Event → Option (Nat × Nat)
  | .op j (.start completion _) => some (j, completion)
  | _ => none

/-- A task that is dropped before it has run takes its count with it. -/
def Event.isLoss : Event → Bool
  | .op _ (.drop false) => true
  | _ => false

/-- The callbacks that are for a completion. -/
def ofCompletion (completion : Nat) (callbacks : List Callback) : List Callback :=
  callbacks.filter (·.target = .completion completion)

/-- The callbacks that have been queued for a completion, by whichever operation. -/
def queuedFor (completion : Nat) (events : List Event) : List Callback :=
  ofCompletion completion (events.filterMap Event.callback?)

/-- The operations that have been started, with their completions. -/
def started (events : List Event) : List (Nat × Nat) := events.filterMap Event.start?

/-- The number of tasks that have been dropped before they have run. -/
def losses (events : List Event) : Nat := events.countP Event.isLoss

theorem mem_started {op completion : Nat} {events : List Event} :
    (op, completion) ∈ started events ↔ ∃ request, .op op (.start completion request) ∈ events := by
  rw [started, List.mem_filterMap]
  constructor
  · rintro ⟨e, hmem, hstart⟩
    unfold Event.start? at hstart
    split at hstart
    · cases hstart
      exact ⟨_, hmem⟩
    · cases hstart
  · exact fun ⟨request, hmem⟩ => ⟨_, hmem, rfl⟩

theorem started_snoc (events : List Event) (e : Event) :
    started (events ++ [e]) = started events ++ e.start?.toList :=
  filterMap_snoc Event.start? events e

section

variable {α : Type} {q q' : Queue} {c c' : Closures α}

theorem Aside.nextCompletion (h : Aside q c q' c') :
    c'.nextCompletion = c.nextCompletion := by
  cases h with
  | resolve target => exact Closures.nextCompletion_resolve _ _
  | release target => exact Closures.nextCompletion_release _ _
  | ring | drain | discard | clear | keep | releaseAll => rfl

/-- Other uses of the queue add nothing but firings. -/
theorem Aside.entries_sublist (h : Aside q c q' c') {p : Callback → Bool}
    (hp : ∀ timer, p (.firing timer) = false) :
    (q'.entries.filter p).Sublist (q.entries.filter p) := by
  cases h with
  | ring timer =>
      by_cases hin : timer ∈ q.waiting
      · rw [Queue.enqueue_firing_of_mem hin]
        exact .refl _
      · rw [Queue.enqueue_firing_of_not_mem hin]
        simp [Queue.push, Queue.signal, hp timer]
  | discard timer =>
      by_cases hin : timer ∈ q.waiting
      · rw [Queue.discard_of_mem hin]
        exact List.filter_sublist.filter _
      · rw [Queue.discard_of_not_mem hin]
  | drain | clear => exact List.nil_sublist _
  | keep | resolve | release | releaseAll => exact .refl _

end

namespace Shared

variable {α : Type} {s t : Shared α} {e : Event} {events : List Event} {settings : NetworkSettings}
  {op completion : Nat} {request : Request}

/-! ## Completions -/

/-- What a step does to the numbers of completions: nothing, or a new one is free, or a free one is
given to an operation. -/
theorem Step.allots (h : Step s e t) :
    (e.start? = none ∧ t.free = s.free ∧
      t.closures.nextCompletion = s.closures.nextCompletion) ∨
    (e.start? = none ∧ t.free = s.closures.nextCompletion :: s.free ∧
      t.closures.nextCompletion = s.closures.nextCompletion + 1) ∨
    ∃ op completion, e.start? = some (op, completion) ∧ completion ∈ s.free ∧
      t.free = s.free.erase completion ∧
      t.closures.nextCompletion = s.closures.nextCompletion := by
  cases h with
  | number => exact .inr (.inl ⟨rfl, rfl, rfl⟩)
  | start _ hfree => exact .inr (.inr ⟨_, _, rfl, hfree, rfl, rfl⟩)
  | aside haside => exact .inl ⟨rfl, rfl, haside.nextCompletion⟩
  | refuse | find | ask | watch | giveUp | hear | draw | enter | remove | signal | settle | queue
  | uncount | finish | drop | detach | fire | answer | detachAll | answerAll =>
      exact .inl ⟨rfl, rfl, rfl⟩

/-- Every number of a completion belongs to one operation, or is free. -/
structure Allotted (events : List Event) (s : Shared α) : Prop where
  nodup : ((started events).map (·.2) ++ s.free).Nodup
  lt : ∀ completion ∈ (started events).map (·.2) ++ s.free,
    completion < s.closures.nextCompletion

theorem Allotted.step (h : Allotted events s) (step : Step s e t) :
    Allotted (events ++ [e]) t := by
  have hlt := h.lt
  rcases step.allots with ⟨hstart, hfree, hnext⟩ | ⟨hstart, hfree, hnext⟩ |
    ⟨op, completion, hstart, hmem, hfree, hnext⟩
  · constructor <;> rw [started_snoc, hstart, hfree, Option.toList_none, List.append_nil]
    · exact h.nodup
    · rwa [hnext]
  · have hperm : ((started events).map (·.2) ++ s.closures.nextCompletion :: s.free).Perm
        (s.closures.nextCompletion :: ((started events).map (·.2) ++ s.free)) := List.perm_middle
    constructor <;> rw [started_snoc, hstart, hfree, Option.toList_none, List.append_nil]
    · refine hperm.nodup_iff.2 (List.nodup_cons.2 ⟨fun hold => ?_, h.nodup⟩)
      exact absurd (hlt _ hold) (Nat.lt_irrefl _)
    · intro completion hmem
      rw [hnext]
      rcases List.mem_cons.1 (hperm.mem_iff.1 hmem) with rfl | hold
      · exact Nat.lt_succ_self _
      · exact Nat.lt_succ_of_lt (hlt _ hold)
  · -- The number is taken from the free ones and given to the operation.
    have hperm : ((started (events ++ [e])).map (·.2) ++ t.free).Perm
        ((started events).map (·.2) ++ s.free) := by
      rw [started_snoc, hstart, hfree, List.map_append, List.append_assoc]
      exact (List.perm_cons_erase hmem).symm.append_left _
    exact ⟨hperm.nodup_iff.2 h.nodup, fun c hc => hnext ▸ hlt c (hperm.mem_iff.1 hc)⟩

theorem Run.allotted (h : Run (start settings) events s) :
    Allotted events s :=
  Run.history (P := Allotted) ⟨List.nodup_nil, fun _ h => (by cases h)⟩
    (fun _ hallotted step => hallotted.step step) h

/-- No two operations have one completion. -/
theorem Run.op_eq_of_completion_eq (h : Run (start settings) events s) {other : Nat}
    {request' : Request} (hop : .op op (.start completion request) ∈ events)
    (hother : .op other (.start completion request') ∈ events) : op = other :=
  (Prod.mk.inj (List.inj_on_of_nodup_map (List.nodup_append.1 h.allotted.nodup).1
    (mem_started.2 ⟨_, hop⟩) (mem_started.2 ⟨_, hother⟩) rfl)).1

/-- The record of an operation that has started. -/
theorem Run.record (h : Run (start settings) events s)
    (hstarted : .op op (.start completion request) ∈ events) :
    Record completion request (acts op events) (s.standing op) :=
  ((h.course op).record_of_start ((mem_acts op events _).2 hstarted)).1

/-- What an operation queues is the completion with which it has started. -/
theorem Run.target_of_queued (h : Run (start settings) events s) {callback : Callback}
    (hqueued : .op op (.queue callback) ∈ events) :
    ∃ completion request, .op op (.start completion request) ∈ events ∧
      callback.target = .completion completion := by
  have hmem := (mem_acts op events _).2 hqueued
  rcases (h.course op).record with ⟨hnil, -⟩ | ⟨completion, request, rest, hacts, -, hrecord⟩
  · rw [hnil] at hmem
    cases hmem
  · have hstart : .op op (.start completion request) ∈ events :=
      (mem_acts op events _).1 (hacts ▸ List.mem_cons_self)
    have hcallback : callback ∈ callbacks (acts op events) := List.mem_filterMap.2 ⟨_, hmem, rfl⟩
    refine ⟨completion, request, hstart, ?_⟩
    rcases hrecord.callbacks with hnone | ⟨outcome, hone⟩
    · rw [hnone] at hcallback
      cases hcallback
    · rw [hone, List.mem_singleton] at hcallback
      rw [hcallback]
      rfl

/-- What has been queued for a completion is what its operation has queued. -/
theorem Run.queuedFor_eq (h : Run (start settings) events s)
    (hstarted : .op op (.start completion request) ∈ events) :
    queuedFor completion events = callbacks (acts op events) := by
  rw [queuedFor, ofCompletion, List.filter_filterMap, callbacks, acts, List.filterMap_filterMap]
  refine List.filterMap_congr fun e hmem => ?_
  cases e with
  | thread | numbered | aside => rfl
  | op j act =>
      cases act with
      | queue callback =>
          -- another operation has queued its own completion, which is a different one
          obtain ⟨completion', request', hstart, htarget⟩ := h.target_of_queued hmem
          by_cases hj : j = op
          · subst hj
            have hsame := ((h.course j).record_of_start ((mem_acts j events _).2 hstarted)).2
              completion' request' ((mem_acts j events _).2 hstart)
            simp [Event.callback?, Event.act?, Act.callback?, htarget, hsame.1]
          · have hother : completion' ≠ completion := by
              rintro rfl
              exact hj (h.op_eq_of_completion_eq hstart hstarted)
            simp [Event.callback?, Event.act?, htarget, hj, hother]
      | _ =>
          rw [Event.act?]
          split <;> rfl

/-! ## The queue -/

/-- What a step adds to the queue is what its event says, or a firing. -/
theorem Step.entries_sublist (h : Step s e t) {p : Callback → Bool}
    (hp : ∀ timer, p (.firing timer) = false) :
    (t.queue.entries.filter p).Sublist ((s.queue.entries ++ e.callback?.toList).filter p) := by
  cases h with
  | queue hat =>
      rw [Coordinator.deliver_of_finished hat.operation]
      exact .refl _
  | aside haside =>
      show (_ : List Callback).Sublist ((s.queue.entries ++ []).filter p)
      rw [List.append_nil]
      exact haside.entries_sublist hp
  | number | start | refuse | find | ask | watch | giveUp | hear | draw | enter | remove | signal
  | settle | uncount | finish | drop | detach | fire | answer | detachAll | answerAll =>
      show (s.queue.entries.filter p).Sublist ((s.queue.entries ++ []).filter p)
      rw [List.append_nil]

/-- Callbacks in the queue have been queued, none is there twice, and they are there in the order in
which they have been queued. -/
theorem Run.filter_sublist (h : Run (start settings) events s) {p : Callback → Bool}
    (hp : ∀ timer, p (.firing timer) = false) :
    (s.queue.entries.filter p).Sublist ((events.filterMap Event.callback?).filter p) := by
  refine Run.history (P := fun events s =>
    (s.queue.entries.filter p).Sublist ((events.filterMap Event.callback?).filter p))
    (List.Sublist.refl []) ?_ h
  intro earlier a b e _ ih step
  have hafter := step.entries_sublist hp
  rw [List.filter_append] at hafter
  rw [filterMap_snoc, List.filter_append]
  exact hafter.trans (ih.append_right _)

theorem Run.entries_sublist (h : Run (start settings) events s)
    (completion : Nat) :
    (ofCompletion completion s.queue.entries).Sublist (queuedFor completion events) :=
  h.filter_sublist fun _ => rfl

/-! ## The count -/

theorem Step.balanced {lost : Nat} (h : Step s e t) (hbalanced : s.network.Balanced lost) :
    t.network.Balanced (lost + if e.isLoss then 1 else 0) := by
  cases h with
  | start request => exact hbalanced.start request _
  | refuse | find => exact hbalanced.begin _
  | giveUp => exact hbalanced.giveUp _
  | settle => exact hbalanced.setStage _ _
  | queue => exact hbalanced.deliver _ _
  | uncount => exact hbalanced.retire _
  | @drop op _ _ stage _ hat =>
      -- the count of a task that has not run is lost with it
      have hdrop := hbalanced.drop op
      rw [Coordinator.isUnbegun, hat.operation] at hdrop
      cases stage <;> exact hdrop
  | draw | enter | remove | signal | detach | fire | detachAll => exact hbalanced.handles _
  | number | ask | watch | hear | finish | answer | answerAll | aside => exact hbalanced

/-- Every operation in the table is counted. -/
theorem Run.balanced (h : Run (start settings) events s) :
    s.network.Balanced (losses events) := by
  refine Run.history (P := fun events s => s.network.Balanced (losses events))
    Coordinator.balanced_empty ?_ h
  intro earlier a b e _ ih step
  have hafter := step.balanced ih
  rwa [losses, List.countP_append, List.countP_singleton]

/-! ## Own steps -/

/-- An operation can end by its own steps, whatever all others do not do. -/
def CanEnd (s : Shared α) (op : Nat) : Prop :=
  ∃ (acts : List Act) (t : Shared α), Run s (acts.map (.op op)) t ∧ (∀ ran, .drop ran ∉ acts) ∧
    t.standing op = (none, .ended)

theorem CanEnd.of_step {act : Act} (h : t.CanEnd op) (step : Step s (.op op act) t)
    (hkept : ∀ ran, act ≠ .drop ran) : s.CanEnd op := by
  obtain ⟨acts, u, hrun, hothers, hended⟩ := h
  refine ⟨act :: acts, u, .cons step hrun, fun ran hmem => ?_, hended⟩
  rcases List.mem_cons.1 hmem with hact | hmem
  · exact hkept ran hact.symm
  · exact hothers ran hmem

theorem canEnd_of_leaving (hgone : s.network.operations.get? op = none)
    (hleaving : s.footing op = .leaving) : s.CanEnd op := by
  have hended : (s.place op .ended).standing op = (none, .ended) := Prod.ext hgone (if_pos rfl)
  exact .of_step ⟨[], _, .nil _, fun _ h => (by cases h), hended⟩ (.finish hgone hleaving) nofun

theorem At.canEnd_of_queued (hat : s.At op completion request .queued .none) : s.CanEnd op := by
  refine .of_step (canEnd_of_leaving ?_ (if_pos rfl)) (.uncount hat) nofun
  show (s.network.retire op).operations.get? op = none
  rw [Coordinator.retire_of_queued hat.operation, Table.get?_erase, if_pos rfl]

theorem At.canEnd_of_finished {outcome : Outcome}
    (hat : s.At op completion request (.finished outcome) .none) : s.CanEnd op := by
  have step := Step.queue hat
  obtain ⟨_, _, _, -, -, hafter, -⟩ := step.at_of_queue
  exact .of_step hafter.canEnd_of_queued step nofun

theorem At.canEnd_of_settled {result : Result}
    (hat : s.At op completion request .waiting (.heard (.settled result))) : s.CanEnd op :=
  .of_step (At.canEnd_of_finished
    (at_of_standing ((hat.standing_setStage _ _ op).trans (if_pos rfl)))) (.settle hat) nofun

theorem At.canEnd_of_drawn {kind : Kind} {id : Nat} {outcome : Outcome}
    (hat : s.At op completion request .waiting (.drawn kind id outcome)) : s.CanEnd op :=
  .of_step ((hat.withHandles _).place _).canEnd_of_settled (.enter hat) nofun

theorem At.canEnd_of_losing {id : Nat} {cause : IoFault}
    (hat : s.At op completion request .waiting (.losing id cause)) : s.CanEnd op :=
  .of_step ((hat.withHandles _).place _).canEnd_of_settled (.signal hat) nofun

/-- Whatever the system has replied, the operation can do what is left to do. -/
theorem At.canEnd_of_heard {conclusion : Conclusion}
    (hat : s.At op completion request .waiting (.heard conclusion)) : s.CanEnd op := by
  cases conclusion with
  | settled result => exact hat.canEnd_of_settled
  | opens kind outcome =>
      exact .of_step ((hat.withHandles _).place _).canEnd_of_drawn (.draw hat) nofun
  | loses id cause =>
      refine .of_step ?_ (.remove hat) nofun
      split
      · exact ((hat.withHandles _).place _).canEnd_of_losing
      · exact ((hat.withHandles _).place _).canEnd_of_settled

/-- An operation that does not wait can end by its own steps, or has yet to find its handle. -/
theorem Run.canEnd (h : Run (start settings) events s)
    (hstarted : .op op (.start completion request) ∈ events)
    (hkept : ∀ ran, .op op (.drop ran) ∉ events) :
    s.CanEnd op ∨ (∃ t, Step s (.op op .find) t) ∨
      ∃ asked watching, s.At op completion request .waiting (.waits asked watching) := by
  have hrecord := h.record hstarted
  generalize hacts : acts op events = done at hrecord
  generalize hstanding : s.standing op = here at hrecord
  cases hrecord with
  | spawned =>
      have hat := at_of_standing hstanding
      cases hobstacle : request.obstacle? s.network.handles with
      | none => exact .inr (.inl ⟨_, .find hat hobstacle⟩)
      | some cause =>
          have step := Step.refuse hat hobstacle
          obtain ⟨_, _, -, hafter⟩ := step.at_of_refuse
          exact .inl (.of_step hafter.canEnd_of_finished step nofun)
  | waits => exact .inr (.inr ⟨_, _, at_of_standing hstanding⟩)
  | heard => exact .inl (at_of_standing hstanding).canEnd_of_heard
  | drawn => exact .inl (at_of_standing hstanding).canEnd_of_drawn
  | losing => exact .inl (at_of_standing hstanding).canEnd_of_losing
  | finished => exact .inl (at_of_standing hstanding).canEnd_of_finished
  | queued => exact .inl (at_of_standing hstanding).canEnd_of_queued
  | leaving =>
      exact .inl (canEnd_of_leaving (congrArg Prod.fst hstanding) (congrArg Prod.snd hstanding))
  | ended =>
      exact .inl ⟨[], _, .nil _, fun _ h => (by cases h), hstanding⟩
  | dropped hdropped =>
      rw [← hacts, mem_acts] at hdropped
      exact absurd hdropped (hkept _)

/-! ## The whole of it -/

/-- What an operation queues goes to the end of the queue, once, while it is counted, and a handle
that it names has entered its table. -/
theorem Run.queued_once (h : Run (start settings) events s) {callback : Callback}
    (hstarted : .op op (.start completion request) ∈ events)
    (step : Step s (.op op (.queue callback)) t) :
    queuedFor completion events = [] ∧ t.queue.entries = s.queue.entries ++ [callback] ∧
      s.network.operations.contains op = true ∧ t.network.operations.contains op = true ∧
      t.network.active = s.network.active ∧
      ∃ result, results (acts op events) = [result] ∧
        callback = .completion completion (ofResult result) ∧
        ∀ kind id, request.named? (ofResult result) = some (kind, id) →
          .op op (.enter kind id) ∈ events := by
  obtain ⟨_, _, outcome, rfl, hat, hafter, hentries, hactive⟩ := step.at_of_queue
  have hrecord := h.record hstarted
  rw [hat.standing] at hrecord
  rw [h.queuedFor_eq hstarted, Table.contains, Table.contains, hat.operation, hafter.operation]
  generalize hacts : acts op events = done at hrecord
  cases hrecord with
  | finished hcallbacks hreturned =>
      refine ⟨hcallbacks, hentries, rfl, rfl, hactive, _, hreturned.results, rfl, ?_⟩
      intro kind id hnamed
      rw [← mem_acts, hacts]
      exact hreturned.named kind id hnamed

theorem Run.uncounted (h : Run (start settings) events s)
    (hstarted : .op op (.start completion request) ∈ events) (step : Step s (.op op .uncount) t) :
    (∃ callback, queuedFor completion events = [callback]) ∧
      t.network.operations.contains op = false ∧ t.network.active + 1 = s.network.active ∧
      t.queue = s.queue ∧ t.network.handles = s.network.handles := by
  cases step with
  | uncount hat =>
      have hqueued : ∃ callback, queuedFor completion events = [callback] := by
        have hrecord := h.record hstarted
        rw [hat.standing] at hrecord
        rw [h.queuedFor_eq hstarted]
        generalize acts op events = done at hrecord
        cases hrecord with
        | queued hcallbacks => exact ⟨_, hcallbacks⟩
      have hactive := h.balanced.active
      have hsize := s.network.operations.size_erase hat.operation
      rw [Coordinator.retire_of_queued hat.operation]
      refine ⟨hqueued, ?_, ?_, rfl, rfl⟩
      · show ((s.network.operations.erase op).get? op).isSome = false
        rw [Table.get?_erase, if_pos rfl]
        rfl
      · show s.network.active - 1 + 1 = s.network.active
        omega

/-- An operation that is counted no more touches nothing. -/
theorem Run.touches_nothing (h : Run (start settings) events s) {act : Act}
    (huncounted : .op op .uncount ∈ events) (step : Step s (.op op act) t) :
    t.queue = s.queue ∧ t.network = s.network := by
  have hgoes := step.own h.tidy
  generalize t.standing op = there at hgoes
  rcases (h.course op).gone_of_uncount ((mem_acts op events _).2 huncounted) with hgone | hgone
  · rw [hgone] at hgoes
    cases hgoes with
    | finish =>
        cases step with
        | finish => exact ⟨rfl, rfl⟩
  · rw [hgone] at hgoes
    cases hgoes

/-- **Every operation completes exactly once and is counted until then**, unless its task is aborted
or panics, and whatever all others do in between.

No other operation has its completion.  What has been queued for the completion is nothing, and then
the operation is counted, or it is one callback with what the operation has returned, a failure
exactly if that is an error.  The callback is queued while the operation is counted and after a
handle that it names has entered its table; the operation is counted no more only after that, and
then it touches neither the queue nor the handles.  As soon as it does not wait any more, the
operation can come to its end by its own steps: whatever the system replies, and when its handle has
been closed. -/
theorem operation_completes_once (hrun : Run (start settings) events s)
    (hstarted : .op op (.start completion request) ∈ events)
    (hkept : ∀ ran, .op op (.drop ran) ∉ events) :
    (∀ other request', .op other (.start completion request') ∈ events → other = op) ∧
    (queuedFor completion events = [] ∧ s.network.operations.contains op = true ∨
      ∃ result, results (acts op events) = [result] ∧
        queuedFor completion events = [.completion completion (ofResult result)] ∧
        ∀ reason, ofResult result = .failure reason ↔
          ∃ cause, result = .error cause ∧ reason = cause.message) ∧
    (ofCompletion completion s.queue.entries).Sublist (queuedFor completion events) ∧
    s.network.active = s.network.operations.size + losses events ∧
    (∀ callback t, Step s (.op op (.queue callback)) t →
      queuedFor completion events = [] ∧ t.queue.entries = s.queue.entries ++ [callback] ∧
      s.network.operations.contains op = true ∧ t.network.operations.contains op = true ∧
      t.network.active = s.network.active ∧
      ∃ result, results (acts op events) = [result] ∧
        callback = .completion completion (ofResult result) ∧
        ∀ kind id, request.named? (ofResult result) = some (kind, id) →
          .op op (.enter kind id) ∈ events) ∧
    (∀ t, Step s (.op op .uncount) t →
      (∃ callback, queuedFor completion events = [callback]) ∧
      t.network.operations.contains op = false ∧ t.network.active + 1 = s.network.active ∧
      t.queue = s.queue ∧ t.network.handles = s.network.handles) ∧
    (.op op .uncount ∈ events → ∀ act t, Step s (.op op act) t →
      t.queue = s.queue ∧ t.network = s.network) ∧
    (s.CanEnd op ∨ (∃ t, Step s (.op op .find) t) ∨
      ∃ asked watching, s.At op completion request .waiting (.waits asked watching) ∧
        (s.HasTurn op request → ∀ r, ∃ t, Step s (.op op (.hear r)) t ∧ t.CanEnd op) ∧
        ∀ kind id, watching = true → request.handle? = some (kind, id) →
          s.network.handles.isSignalled id = true →
          ∃ t, Step s (.op op (.giveUp id)) t ∧ t.CanEnd op) := by
  refine ⟨fun other request' hother => hrun.op_eq_of_completion_eq hother hstarted, ?_,
    hrun.entries_sublist completion, hrun.balanced.active,
    fun callback t step => hrun.queued_once hstarted step,
    fun t step => hrun.uncounted hstarted step,
    fun huncounted act t step => hrun.touches_nothing huncounted step, ?_⟩
  · rw [hrun.queuedFor_eq hstarted]
    rcases (hrun.record hstarted).returned fun ran => mt (mem_acts op events _).1 (hkept ran) with
      ⟨hnone, hcounted⟩ | ⟨result, hreturned, hone⟩
    · exact .inl ⟨hnone, Option.isSome_iff_ne_none.2 hcounted⟩
    · exact .inr ⟨result, hreturned.results, hone, hreturned.honest.eq_failure_iff⟩
  · refine (hrun.canEnd hstarted hkept).imp_right (Or.imp_right ?_)
    rintro ⟨asked, watching, hat⟩
    refine ⟨asked, watching, hat, fun hturn r => ?_, ?_⟩
    · exact ⟨_, .hear hat hturn r, At.canEnd_of_heard ⟨hat.operation, if_pos rfl⟩⟩
    · rintro kind id rfl hhandle hsignalled
      have step := Step.giveUp hat hhandle hsignalled
      obtain ⟨_, _, _, _, -, -, -, hafter⟩ := step.at_of_giveUp
      exact ⟨_, step, hafter.canEnd_of_finished⟩

/-- A connection is made, and its operation has ended. -/
theorem connect_completes :
    ∃ (events : List Event) (s : Shared Unit), Run (start ⟨0, 1, 0⟩) events s ∧
      s.standing 0 = (none, .ended) ∧ s.network.active = 0 ∧
      queuedFor 1 events = [.completion 1 (delivered (.int 1))] := by
  obtain ⟨s, hrun, hended, hactive⟩ : ∃ s : Shared Unit, Run (start ⟨0, 1, 0⟩)
      [.numbered 1, .op 0 (.start 1 (.connect "peer" 80)), .op 0 .find, .op 0 (.hear .connected),
        .op 0 (.draw 1), .op 0 (.enter .stream 1), .op 0 (.settle (.ok (delivered (.int 1)))),
        .op 0 (.queue (.completion 1 (delivered (.int 1)))), .op 0 .uncount, .op 0 .finish] s ∧
      s.standing 0 = (none, .ended) ∧ s.network.active = 0 := by
    exact ⟨_, .cons (.number ()) <| .cons (.start _ (by decide)) <| .cons (.find ⟨rfl, rfl⟩ rfl) <|
      .cons (.hear ⟨rfl, rfl⟩ (fun _ h => by cases h) _) <| .cons (.draw ⟨rfl, rfl⟩) <|
      .cons (.enter ⟨rfl, rfl⟩) <| .cons (.settle ⟨rfl, rfl⟩) <| .cons (.queue ⟨rfl, rfl⟩) <|
      .cons (.uncount ⟨rfl, rfl⟩) <| .cons (.finish rfl rfl) <| .nil _, rfl, rfl⟩
  refine ⟨_, s, hrun, hended, hactive, ?_⟩
  obtain ⟨-, hqueued, -⟩ := operation_completes_once hrun
    (List.mem_cons_of_mem _ List.mem_cons_self) (by simp)
  rcases hqueued with ⟨-, hcounted⟩ | ⟨result, hresults, hqueued, -⟩
  · rw [Table.contains, show s.network.operations.get? 0 = none from congrArg Prod.fst hended]
      at hcounted
    cases hcounted
  · cases hresults
    exact hqueued

end Shared
end ScriptHost.Network
