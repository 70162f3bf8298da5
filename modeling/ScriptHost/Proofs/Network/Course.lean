import ScriptHost.Proofs.Network.Threads

/-!
# The course of one operation and of one call

The steps of one operation go through its stages in order, and where the operation stands
(`Standing`) is changed by its own steps alone.  So of any run each operation has seen a course of
its own (`Course`), whatever the others have done in between, and what is to be proved of one
operation is proved along the course.  In the same way the call of a thread is changed by the moves
of this thread alone (`Calls`).

The steps of all operations and threads meet in the handles, and there each event says exactly what
it has found (`Event.Tells`) and what has become of them (`Event.handles`).
-/

namespace ScriptHost.Network

open Ready (Callback Outcome Queue)

namespace Coordinator

variable {c : Coordinator} {op completion id : Nat} {request : Request}

theorem get?_setStage {o : Operation} (hget : c.operations.get? op = some o) (stage : Stage)
    (j : Nat) : (c.setStage op stage).operations.get? j =
      if j = op then some { o with stage } else c.operations.get? j := by
  rw [setStage, Table.get?_modify]
  split
  · rename_i hj
    rw [hj, hget]
    rfl
  · rfl

theorem begin_of_obstacle {cause : NetworkFault}
    (hget : c.operations.get? op = some ⟨completion, request, .spawned⟩)
    (hobstacle : request.obstacle? c.handles = some cause) :
    c.begin op = c.setStage op (.finished (failed cause)) := by
  simp only [begin, hget, hobstacle]

theorem begin_of_clear (hget : c.operations.get? op = some ⟨completion, request, .spawned⟩)
    (hclear : request.obstacle? c.handles = none) : c.begin op = c.setStage op .waiting := by
  simp only [begin, hget, hclear]

theorem giveUp_of_signalled {kind : Kind}
    (hget : c.operations.get? op = some ⟨completion, request, .waiting⟩)
    (hhandle : request.handle? = some (kind, id)) (hsignalled : c.handles.isSignalled id = true) :
    c.giveUp op = c.setStage op (.finished (failed (.closed id))) := by
  simp only [giveUp, hget, hhandle, hsignalled, if_true]

theorem deliver_of_finished {outcome : Outcome}
    (hget : c.operations.get? op = some ⟨completion, request, .finished outcome⟩) (q : Queue) :
    c.deliver q op = (c.setStage op .queued, (q.enqueue (.completion completion outcome)).2) := by
  simp only [deliver, hget]

theorem retire_of_queued (hget : c.operations.get? op = some ⟨completion, request, .queued⟩) :
    c.retire op = { c with active := c.active - 1, operations := c.operations.erase op } := by
  simp only [retire, hget]

theorem handles_drop (c : Coordinator) (op : Nat) : (c.drop op).handles = c.handles := by
  rw [drop]
  split <;> rfl

theorem nextOperation_drop (c : Coordinator) (op : Nat) :
    (c.drop op).nextOperation = c.nextOperation := by
  rw [drop]
  split <;> rfl

end Coordinator

/-! ## Where an operation stands -/

/-- What the table of operations says of an operation, and how far it has come. -/
abbrev Standing := Option Operation × Footing

/-- The steps of one operation, as they change where it stands. -/
inductive Goes : Standing → Act → Standing → Prop where
  | start (completion : Nat) (request : Request) :
      Goes (none, .none) (.start completion request) (some ⟨completion, request, .spawned⟩, .none)
  | refuse {completion : Nat} {request : Request} (cause : NetworkFault) :
      Goes (some ⟨completion, request, .spawned⟩, .none) (.refuse cause)
        (some ⟨completion, request, .finished (failed cause)⟩, .none)
  | find {completion : Nat} {request : Request} :
      Goes (some ⟨completion, request, .spawned⟩, .none) .find
        (some ⟨completion, request, .waiting⟩, .waits false false)
  | ask {completion : Nat} {request : Request} {watching : Bool} :
      Goes (some ⟨completion, request, .waiting⟩, .waits false watching) .ask
        (some ⟨completion, request, .waiting⟩, .waits true watching)
  | watch {completion : Nat} {request : Request} {asked : Bool} :
      Goes (some ⟨completion, request, .waiting⟩, .waits asked false) .watch
        (some ⟨completion, request, .waiting⟩, .waits asked true)
  | giveUp {completion id : Nat} {request : Request} {kind : Kind} {asked : Bool}
      (hhandle : request.handle? = some (kind, id)) :
      Goes (some ⟨completion, request, .waiting⟩, .waits asked true) (.giveUp id)
        (some ⟨completion, request, .finished (failed (.closed id))⟩, .none)
  | hear {completion : Nat} {request : Request} {asked watching : Bool} (r : Reply) :
      Goes (some ⟨completion, request, .waiting⟩, .waits asked watching) (.hear r)
        (some ⟨completion, request, .waiting⟩, .heard (request.conclusion r))
  | draw {completion : Nat} {request : Request} {kind : Kind} {outcome : Nat → Outcome} (id : Nat) :
      Goes (some ⟨completion, request, .waiting⟩, .heard (.opens kind outcome)) (.draw id)
        (some ⟨completion, request, .waiting⟩, .drawn kind id (outcome id))
  | enter {completion : Nat} {request : Request} {kind : Kind} {id : Nat} {outcome : Outcome} :
      Goes (some ⟨completion, request, .waiting⟩, .drawn kind id outcome) (.enter kind id)
        (some ⟨completion, request, .waiting⟩, .heard (.settled (.ok outcome)))
  | remove {completion : Nat} {request : Request} {id : Nat} {cause : IoFault} :
      Goes (some ⟨completion, request, .waiting⟩, .heard (.loses id cause)) (.remove id true)
        (some ⟨completion, request, .waiting⟩, .losing id cause)
  | miss {completion : Nat} {request : Request} {id : Nat} {cause : IoFault} :
      Goes (some ⟨completion, request, .waiting⟩, .heard (.loses id cause)) (.remove id false)
        (some ⟨completion, request, .waiting⟩, .heard (.settled (.error (.lost cause))))
  | signal {completion : Nat} {request : Request} {id : Nat} {cause : IoFault} :
      Goes (some ⟨completion, request, .waiting⟩, .losing id cause) (.signal id)
        (some ⟨completion, request, .waiting⟩, .heard (.settled (.error (.lost cause))))
  | settle {completion : Nat} {request : Request} {result : Result} :
      Goes (some ⟨completion, request, .waiting⟩, .heard (.settled result)) (.settle result)
        (some ⟨completion, request, .finished (ofResult result)⟩, .none)
  | queue {completion : Nat} {request : Request} {outcome : Outcome} :
      Goes (some ⟨completion, request, .finished outcome⟩, .none)
        (.queue (.completion completion outcome)) (some ⟨completion, request, .queued⟩, .none)
  | uncount {completion : Nat} {request : Request} :
      Goes (some ⟨completion, request, .queued⟩, .none) .uncount (none, .leaving)
  | finish : Goes (none, .leaving) .finish (none, .ended)
  | drop {o : Operation} {footing : Footing} (hsteady : footing.isSteady = true) :
      Goes (some o, footing) (.drop !o.stage.isSpawned) (none, .ended)

/-- What an operation has done, and where it stands then. -/
inductive Course : List Act → Standing → Prop where
  | nil : Course [] (none, .none)
  | snoc {acts : List Act} {here there : Standing} {act : Act} (h : Course acts here)
      (goes : Goes here act there) : Course (acts ++ [act]) there

/-- The step of an operation that an event is. -/
def Event.act? (op : Nat) : Event → Option Act
  | .op j act => if j = op then some act else none
  | _ => none

@[simp] theorem Event.act?_op (op : Nat) (act : Act) : (Event.op op act).act? op = some act :=
  if_pos rfl

/-- What an operation has done. -/
def acts (op : Nat) (events : List Event) : List Act := events.filterMap (Event.act? op)

theorem filterMap_snoc {β γ : Type} (f : β → Option γ) (earlier : List β) (last : β) :
    (earlier ++ [last]).filterMap f = earlier.filterMap f ++ (f last).toList := by
  rw [List.filterMap_append]
  cases h : f last <;> simp [h]

theorem acts_snoc (op : Nat) (events : List Event) (e : Event) :
    acts op (events ++ [e]) = acts op events ++ (e.act? op).toList :=
  filterMap_snoc (Event.act? op) events e

theorem mem_acts (op : Nat) (events : List Event) (act : Act) :
    act ∈ acts op events ↔ .op op act ∈ events := by
  rw [acts, List.mem_filterMap]
  constructor
  · rintro ⟨e, hmem, hact⟩
    cases e with
    | op j other =>
        rw [Event.act?] at hact
        split at hact
        · rename_i hj
          cases hact
          rwa [← hj]
        · cases hact
    | thread | numbered | aside => cases hact
  · exact fun hmem => ⟨_, hmem, Event.act?_op op act⟩

/-- The moves of one thread, as they change the call that it is in. -/
inductive Calls : Call → Move → Call → Prop where
  | detach (kind : Kind) (id : Nat) (found : Bool) :
      Calls .none (.detach kind id found) (.closing kind id found (if found then [id] else []))
  | fire {call : Call} {id : Nat} (hleft : id ∈ call.left) : Calls call (.fire id) (call.fire id)
  | answer {kind : Kind} {id : Nat} {found : Bool} :
      Calls (.closing kind id found []) (.answer kind id found) .none
  | detachAll (taken : List Nat) : Calls .none (.detachAll taken) (.closingAll taken taken)
  | answerAll {taken : List Nat} : Calls (.closingAll taken []) (.answerAll taken) .none

/-- What an event has found in the tables. -/
def Event.Tells (h : Handles) : Event → Prop
  | .op _ (.draw id) => id = h.next
  | .op _ (.remove id found) => found = h.isOpen .stream id
  | .thread _ (.detach kind id found) => found = h.isOpen kind id
  | .thread _ (.detachAll taken) => taken = h.table.keys
  | _ => True

/-- What an event has done to the handles. -/
def Event.handles (h : Handles) : Event → Handles
  | .op _ (.draw _) => { h with next := h.next + 1 }
  | .op _ (.enter kind id) => { h with table := h.table.insert id kind }
  | .op _ (.remove id _) => (h.detach .stream id).2
  | .op _ (.signal id) | .thread _ (.fire id) => h.signal id
  | .thread _ (.detach kind id _) => (h.detach kind id).2
  | .thread _ (.detachAll _) => { h with table := .empty }
  | _ => h

/-- An event fires the close signal of a handle. -/
def Event.Fires (id : Nat) : Event → Prop
  | .op _ (.signal j) | .thread _ (.fire j) => id = j
  | _ => False

theorem Event.isSignalled_handles (e : Event) (h : Handles) (id : Nat) :
    (e.handles h).isSignalled id = true ↔ e.Fires id ∨ h.isSignalled id = true := by
  cases e with
  | op op act =>
      cases act with
      | signal j => exact h.isSignalled_signal j id
      | remove => simp [Event.handles, Event.Fires, Handles.isSignalled]
      | _ => exact (or_iff_right not_false).symm
  | thread thread move =>
      cases move with
      | fire j => exact h.isSignalled_signal j id
      | detach => simp [Event.handles, Event.Fires, Handles.isSignalled]
      | _ => exact (or_iff_right not_false).symm
  | numbered | aside => exact (or_iff_right not_false).symm

namespace Shared

variable {α : Type} {s t : Shared α} {e : Event}

/-- Where an operation stands. -/
def standing (s : Shared α) (op : Nat) : Standing := (s.network.operations.get? op, s.footing op)

theorem At.standing {op completion : Nat} {request : Request} {stage : Stage} {footing : Footing}
    (hat : s.At op completion request stage footing) :
    s.standing op = (some ⟨completion, request, stage⟩, footing) :=
  Prod.ext hat.operation hat.footing

theorem at_of_standing {op completion : Nat} {request : Request} {stage : Stage} {footing : Footing}
    (h : s.standing op = (some ⟨completion, request, stage⟩, footing)) :
    s.At op completion request stage footing :=
  ⟨congrArg Prod.fst h, congrArg Prod.snd h⟩

/-- Only operations that have been started stand anywhere. -/
def Tidy (s : Shared α) : Prop :=
  ∀ op, s.network.nextOperation ≤ op → s.standing op = (none, .none)

theorem standing_place (s : Shared α) (op : Nat) (footing : Footing) (j : Nat) :
    (s.place op footing).standing j =
      if j = op then (s.network.operations.get? op, footing) else s.standing j := by
  simp only [standing, place]
  split
  · rename_i hj
    rw [hj]
  · rfl

theorem At.standing_place {op completion : Nat} {request : Request} {stage : Stage}
    {footing : Footing} (hat : s.At op completion request stage footing) (footing' : Footing)
    (j : Nat) : (s.place op footing').standing j =
      if j = op then (some ⟨completion, request, stage⟩, footing') else s.standing j := by
  rw [Shared.standing_place, hat.operation]

theorem At.standing_setStage {op completion : Nat} {request : Request} {stage : Stage}
    {footing : Footing} (hat : s.At op completion request stage footing) (later : Stage)
    (footing' : Footing) (j : Nat) :
    ({ s with network := s.network.setStage op later }.place op footing').standing j =
      if j = op then (some ⟨completion, request, later⟩, footing') else s.standing j := by
  rw [Shared.standing_place]
  split
  · show ((s.network.setStage op later).operations.get? op, footing') = _
    rw [Coordinator.get?_setStage hat.operation, if_pos rfl]
  · rename_i hj
    show ((s.network.setStage op later).operations.get? j, s.footing j) = _
    rw [Coordinator.get?_setStage hat.operation, if_neg hj]
    rfl

theorem standing_leave {network : Coordinator} {op : Nat}
    (hget : ∀ j, network.operations.get? j =
      if j = op then none else s.network.operations.get? j) (footing : Footing) (j : Nat) :
    ({ s with network }.place op footing).standing j =
      if j = op then (none, footing) else s.standing j := by
  rw [standing_place]
  split
  · show (network.operations.get? op, footing) = _
    rw [hget, if_pos rfl]
  · rename_i hj
    show (network.operations.get? j, s.footing j) = _
    rw [hget, if_neg hj]
    rfl

/-- A step of an operation changes where this operation stands, and leaves all others. -/
theorem Step.goes {op : Nat} {act : Act} (h : Step s (.op op act) t) (htidy : s.Tidy) :
    ∃ there, Goes (s.standing op) act there ∧
      ∀ j, t.standing j = if j = op then there else s.standing j := by
  cases h with
  | start request =>
      rw [htidy _ (Nat.le_refl _)]
      refine ⟨_, .start _ request, fun j => ?_⟩
      simp only [standing, Coordinator.start, Table.get?_insert]
      split
      · rename_i hj
        rw [hj, show s.footing _ = _ from congrArg Prod.snd (htidy _ (Nat.le_refl _))]
      · rfl
  | refuse hat hobstacle =>
      rw [hat.standing, Coordinator.begin_of_obstacle hat.operation hobstacle]
      exact ⟨_, .refuse _, hat.standing_setStage _ _⟩
  | find hat hclear =>
      rw [hat.standing, Coordinator.begin_of_clear hat.operation hclear]
      exact ⟨_, .find, hat.standing_setStage _ _⟩
  | ask hat => exact ⟨_, hat.standing ▸ .ask, hat.standing_place _⟩
  | watch hat => exact ⟨_, hat.standing ▸ .watch, hat.standing_place _⟩
  | giveUp hat hhandle hsignalled =>
      rw [hat.standing, Coordinator.giveUp_of_signalled hat.operation hhandle hsignalled]
      exact ⟨_, .giveUp hhandle, hat.standing_setStage _ _⟩
  | hear hat hturn r => exact ⟨_, hat.standing ▸ .hear r, hat.standing_place _⟩
  | draw hat => exact ⟨_, hat.standing ▸ .draw _, hat.standing_place _⟩
  | enter hat => exact ⟨_, hat.standing ▸ .enter, hat.standing_place _⟩
  | remove hat =>
      cases (s.network.handles.detach .stream _).1 with
      | true => exact ⟨_, hat.standing ▸ .remove, hat.standing_place _⟩
      | false => exact ⟨_, hat.standing ▸ .miss, hat.standing_place _⟩
  | signal hat => exact ⟨_, hat.standing ▸ .signal, hat.standing_place _⟩
  | settle hat => exact ⟨_, hat.standing ▸ .settle, hat.standing_setStage _ _⟩
  | queue hat =>
      rw [hat.standing, Coordinator.deliver_of_finished hat.operation]
      exact ⟨_, .queue, hat.standing_setStage _ _⟩
  | uncount hat =>
      rw [hat.standing, Coordinator.retire_of_queued hat.operation]
      exact ⟨_, .uncount, standing_leave (fun _ => Table.get?_erase _ _ _) _⟩
  | finish hgone hleaving =>
      have hstanding : s.standing op = (none, .leaving) := Prod.ext hgone hleaving
      refine ⟨(none, .ended), hstanding ▸ .finish, fun j => ?_⟩
      rw [standing_place, hgone]
  | drop hat hsteady =>
      exact ⟨_, hat.standing ▸ .drop hsteady, standing_leave (s.network.get?_drop op) _⟩

theorem Step.own {op : Nat} {act : Act} (h : Step s (.op op act) t) (htidy : s.Tidy) :
    Goes (s.standing op) act (t.standing op) := by
  obtain ⟨there, hgoes, hstanding⟩ := h.goes htidy
  rwa [hstanding, if_pos rfl]

/-! ## Stages passed -/

theorem Step.at_of_refuse {op : Nat} {cause : NetworkFault}
    (h : Step s (.op op (.refuse cause)) t) :
    ∃ completion request, s.At op completion request .spawned .none ∧
      t.At op completion request (.finished (failed cause)) .none := by
  cases h with
  | refuse hat hobstacle =>
      refine ⟨_, _, hat, at_of_standing ?_⟩
      rw [Coordinator.begin_of_obstacle hat.operation hobstacle]
      exact (hat.standing_setStage _ _ op).trans (if_pos rfl)

theorem Step.at_of_giveUp {op id : Nat} (h : Step s (.op op (.giveUp id)) t) :
    ∃ completion request kind asked, request.handle? = some (kind, id) ∧
      s.At op completion request .waiting (.waits asked true) ∧
      s.network.handles.isSignalled id = true ∧
      t.At op completion request (.finished (failed (.closed id))) .none := by
  cases h with
  | giveUp hat hhandle hsignalled =>
      refine ⟨_, _, _, _, hhandle, hat, hsignalled, at_of_standing ?_⟩
      rw [Coordinator.giveUp_of_signalled hat.operation hhandle hsignalled]
      exact (hat.standing_setStage _ _ op).trans (if_pos rfl)

theorem Step.at_of_queue {op : Nat} {callback : Callback}
    (h : Step s (.op op (.queue callback)) t) :
    ∃ completion request outcome, callback = .completion completion outcome ∧
      s.At op completion request (.finished outcome) .none ∧
      t.At op completion request .queued .none ∧
      t.queue.entries = s.queue.entries ++ [callback] ∧ t.network.active = s.network.active := by
  cases h with
  | queue hat =>
      rw [Coordinator.deliver_of_finished hat.operation]
      exact ⟨_, _, _, rfl, hat,
        at_of_standing ((hat.standing_setStage _ _ op).trans (if_pos rfl)), rfl, rfl⟩

/-- Steps of threads and of others leave all operations where they stand. -/
theorem Step.standing_of_not_op (h : Step s e t) (hother : ∀ op act, e ≠ .op op act) (j : Nat) :
    t.standing j = s.standing j := by
  cases h with
  | number | detach | fire | answer | detachAll | answerAll | aside => rfl
  | _ => exact absurd rfl (hother _ _)

/-- An operation stands where it stood, or has gone on by the step. -/
theorem Step.course (h : Step s e t) (htidy : s.Tidy) (op : Nat) :
    e.act? op = none ∧ t.standing op = s.standing op ∨
      ∃ act, e = .op op act ∧ Goes (s.standing op) act (t.standing op) := by
  by_cases hop : ∃ j act, e = .op j act
  · obtain ⟨j, act, rfl⟩ := hop
    obtain ⟨there, hgoes, hstanding⟩ := h.goes htidy
    by_cases hj : op = j
    · subst hj
      refine .inr ⟨act, rfl, ?_⟩
      rwa [hstanding, if_pos rfl]
    · refine .inl ⟨if_neg (Ne.symm hj), ?_⟩
      rw [hstanding, if_neg hj]
  · have hother : ∀ j act, e ≠ .op j act := fun j act he => hop ⟨j, act, he⟩
    refine .inl ⟨?_, h.standing_of_not_op hother op⟩
    cases e with
    | op j act => exact absurd rfl (hother j act)
    | thread | numbered | aside => rfl

/-- What a step does to the handles, and to the next number of an operation. -/
theorem Step.network (h : Step s e t) :
    t.network.handles = e.handles s.network.handles ∧
      s.network.nextOperation ≤ t.network.nextOperation := by
  cases h with
  | start => exact ⟨rfl, Nat.le_succ _⟩
  | refuse hat hobstacle =>
      rw [Coordinator.begin_of_obstacle hat.operation hobstacle]
      exact ⟨rfl, Nat.le_refl _⟩
  | find hat hclear =>
      rw [Coordinator.begin_of_clear hat.operation hclear]
      exact ⟨rfl, Nat.le_refl _⟩
  | giveUp hat hhandle hsignalled =>
      rw [Coordinator.giveUp_of_signalled hat.operation hhandle hsignalled]
      exact ⟨rfl, Nat.le_refl _⟩
  | queue hat =>
      rw [Coordinator.deliver_of_finished hat.operation]
      exact ⟨rfl, Nat.le_refl _⟩
  | uncount hat =>
      rw [Coordinator.retire_of_queued hat.operation]
      exact ⟨rfl, Nat.le_refl _⟩
  | @drop op hat =>
      exact ⟨s.network.handles_drop op, Nat.le_of_eq (s.network.nextOperation_drop op).symm⟩
  | number | ask | watch | hear | draw | enter | remove | signal | settle | finish | detach | fire
  | answer | detachAll | answerAll | aside => exact ⟨rfl, Nat.le_refl _⟩

theorem Step.handles (h : Step s e t) : t.network.handles = e.handles s.network.handles :=
  h.network.1

/-- A move of one thread leaves the calls of all others. -/
theorem calls_assign {j : Nat} {move : Move} {call : Call} (hcalls : Calls (s.call j) move call)
    (thread : Nat) :
    (∀ other, Event.thread j move ≠ .thread thread other) ∧
        (s.assign j call).call thread = s.call thread ∨
      ∃ other, Event.thread j move = .thread thread other ∧
        Calls (s.call thread) other ((s.assign j call).call thread) := by
  by_cases hj : thread = j
  · subst hj
    refine .inr ⟨move, rfl, ?_⟩
    rwa [show (s.assign thread call).call thread = call from if_pos rfl]
  · exact .inl ⟨fun other he => hj (Event.thread.inj he).1.symm, if_neg hj⟩

/-- A thread is in the call that it was in, or has gone on in it by the step. -/
theorem Step.calls (h : Step s e t) (thread : Nat) :
    (∀ move, e ≠ .thread thread move) ∧ t.call thread = s.call thread ∨
      ∃ move, e = .thread thread move ∧ Calls (s.call thread) move (t.call thread) := by
  cases h with
  | detach kind id hcall => exact calls_assign (hcall ▸ .detach kind id _) thread
  | fire hleft => exact calls_assign (.fire hleft) thread
  | answer hcall => exact calls_assign (hcall ▸ .answer) thread
  | detachAll hcall => exact calls_assign (hcall ▸ .detachAll _) thread
  | answerAll hcall => exact calls_assign (hcall ▸ .answerAll) thread
  | number | start | refuse | find | ask | watch | giveUp | hear | draw | enter | remove | signal
  | settle | queue | uncount | finish | drop | aside =>
      exact .inl ⟨fun move he => (by cases he), rfl⟩

theorem Step.ownCall {thread : Nat} {move : Move} (h : Step s (.thread thread move) t) :
    Calls (s.call thread) move (t.call thread) := by
  rcases h.calls thread with ⟨hother, -⟩ | ⟨move, heq, hcalls⟩
  · exact absurd rfl (hother _)
  · exact (Event.thread.inj heq).2 ▸ hcalls

theorem Step.settings (h : Step s e t) : t.settings = s.settings := by
  cases h <;> rfl

theorem Run.settings {settings : NetworkSettings} {events : List Event}
    (h : Run (start settings) events s) : s.settings = settings :=
  h.keeps (P := fun s => s.settings = settings) (fun step hs => step.settings.trans hs) rfl

theorem Step.tells (h : Step s e t) : e.Tells s.network.handles := by
  cases h with
  | draw | detachAll => rfl
  | remove | detach => exact Handles.detach_fst ..
  | number | start | refuse | find | ask | watch | giveUp | hear | enter | signal | settle | queue
  | uncount | finish | drop | fire | answer | answerAll | aside => exact trivial

theorem Step.isSignalled_iff (h : Step s e t) (id : Nat) :
    t.network.handles.isSignalled id = true ↔
      e.Fires id ∨ s.network.handles.isSignalled id = true := by
  rw [h.handles, Event.isSignalled_handles]

/-- A signal that has fired stays so. -/
theorem Run.isSignalled {events : List Event} {id : Nat} (h : Run s events t)
    (hfired : s.network.handles.isSignalled id = true ∨ ∃ e ∈ events, e.Fires id) :
    t.network.handles.isSignalled id = true := by
  induction h with
  | nil =>
      rcases hfired with hfired | ⟨e, hmem, -⟩
      · exact hfired
      · cases hmem
  | cons step _ ih =>
      refine ih ?_
      rcases hfired with hfired | ⟨e, hmem, hfires⟩
      · exact .inl ((step.isSignalled_iff id).2 (.inr hfired))
      · rcases List.mem_cons.1 hmem with rfl | hmem
        · exact .inl ((step.isSignalled_iff id).2 (.inl hfires))
        · exact .inr ⟨e, hmem, hfires⟩

theorem Step.tidy (h : Step s e t) (htidy : s.Tidy) : t.Tidy := by
  intro op hop
  have hbefore := htidy op (Nat.le_trans h.network.2 hop)
  rcases h.course htidy op with ⟨-, hsame⟩ | ⟨act, rfl, hgoes⟩
  · rw [hsame, hbefore]
  · -- The one step from nowhere is the start of the operation with the next number.
    rw [hbefore] at hgoes
    generalize t.standing op = there at hgoes
    cases hgoes with
    | start =>
        cases h with
        | start => exact absurd hop (Nat.not_succ_le_self _)

theorem tidy_start (settings : NetworkSettings) : (start settings : Shared α).Tidy :=
  fun _ _ => rfl

theorem Run.tidy {settings : NetworkSettings} {events : List Event}
    (h : Run (start settings) events s) : s.Tidy :=
  h.keeps (fun step htidy => step.tidy htidy) (tidy_start settings)

/-- Of every run an operation has seen a course of its own. -/
theorem Run.course {settings : NetworkSettings} {events : List Event}
    (h : Run (start settings) events s) (op : Nat) : Course (acts op events) (s.standing op) := by
  refine Run.history (P := fun events s => Course (acts op events) (s.standing op)) .nil ?_ h
  intro earlier a b e hrun ih step
  rw [acts_snoc]
  rcases step.course hrun.tidy op with ⟨hother, hsame⟩ | ⟨act, rfl, hgoes⟩
  · rw [hother, Option.toList_none, List.append_nil, hsame]
    exact ih
  · rw [Event.act?_op, Option.toList_some]
    exact .snoc ih hgoes

end Shared
end ScriptHost.Network
