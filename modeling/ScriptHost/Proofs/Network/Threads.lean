import ScriptHost.Network.Stream
import ScriptHost.Proofs.Network.Active
import ScriptHost.Proofs.Network.Conclusion
import ScriptHost.Proofs.Network.Handles
import ScriptHost.Ready.Closures

/-!
# Handles shared by tasks

Every operation is a task of its own, and any number of threads close handles while operations run
and the queue is used.  A step here is what one task or one thread does before another one can come
in between:

* an operation looks its handle up, asks for its turn at a connection, and begins to watch the close
  signal, in steps of their own; a close may fall between any two of them;
* the system replies, and the operation gives its turn back (`Act.hear`).  What is left to do then
  (`Conclusion`) is done in parts: the number of a new handle is drawn before the handle enters its
  table, and a connection that is lost leaves its table before its signal fires;
* a call that closes a handle takes it out of its table and then fires its signal, and a call that
  closes all of them takes all out in one step and then fires the signals, in any order;
* the callback of an operation is queued, and only then the operation is counted no more.

A step leaves an event that says what it has seen.  Completions are numbered by the table of
closures, and each number is for one operation.
-/

namespace ScriptHost.Network

open Ready (Closures Queue Callback Target)

/-- How far an operation has come within its stage. -/
inductive Footing where
  | none
  /-- It waits, and has asked for its turn or not, and watches the close signal or does not yet. -/
  | waits (asked watching : Bool)
  /-- The system has replied. -/
  | heard (conclusion : Conclusion)
  /-- A number has been drawn for a new handle. -/
  | drawn (kind : Kind) (id : Nat) (outcome : Ready.Outcome)
  /-- A connection has been taken out of its table, and its signal is still to fire. -/
  | losing (id : Nat) (cause : IoFault)
  /-- It is counted no more, and its task has not ended. -/
  | leaving
  | ended

/-- A task is dropped only where it lets others run, or where it panics. -/
def Footing.isSteady : Footing → Bool
  | .none | .waits _ _ | .heard _ => true
  | _ => false

/-- The call that a thread is in. -/
inductive Call where
  | none
  /-- The handle was in its table or was not.  `left` are the signals still to fire. -/
  | closing (kind : Kind) (id : Nat) (found : Bool) (left : List Nat)
  | closingAll (taken left : List Nat)

/-- The handles whose signals a call still has to fire. -/
def Call.left : Call → List Nat
  | .none => []
  | .closing _ _ _ left | .closingAll _ left => left

/-- A call has fired one of its signals. -/
def Call.fire (id : Nat) : Call → Call
  | .none => .none
  | .closing kind other found left => .closing kind other found (left.erase id)
  | .closingAll taken left => .closingAll taken (left.erase id)

theorem Call.left_fire (call : Call) (id : Nat) : (call.fire id).left = call.left.erase id := by
  cases call <;> rfl

/-- The operations with the queue, the closures and the turns at connections, and the calls that
threads are in. -/
structure Shared (α : Type) where
  settings : NetworkSettings
  network : Coordinator
  queue : Queue
  closures : Closures α
  /-- Numbers of completions that no operation has got yet. -/
  free : List Nat
  footing : Nat → Footing
  turns : Side × Nat → Turns Unit
  call : Nat → Call

/-- What an operation does in one step. -/
inductive Act where
  | start (completion : Nat) (request : Request)
  | refuse (cause : NetworkFault)
  | find
  | ask
  | watch
  | giveUp (id : Nat)
  | hear (r : Reply)
  | draw (id : Nat)
  | enter (kind : Kind) (id : Nat)
  | remove (id : Nat) (found : Bool)
  | signal (id : Nat)
  | settle (result : Result)
  | queue (callback : Callback)
  /-- The operation is counted no more. -/
  | uncount
  | finish
  /-- The task is aborted, or panics, when it has run or before. -/
  | drop (ran : Bool)

/-- What a thread does in one step of a call. -/
inductive Move where
  | detach (kind : Kind) (id : Nat) (found : Bool)
  | fire (id : Nat)
  /-- The call returns its answer. -/
  | answer (kind : Kind) (id : Nat) (found : Bool)
  | detachAll (taken : List Nat)
  /-- The call returns how many it has taken. -/
  | answerAll (taken : List Nat)

/-- What a step has done. -/
inductive Event where
  | op (op : Nat) (act : Act)
  | thread (thread : Nat) (move : Move)
  /-- The table of closures has given out the number of a completion. -/
  | numbered (completion : Nat)
  /-- The queue or the table of closures has been used for something else. -/
  | aside

/-- Other uses of the queue and of the table of closures. -/
inductive Aside {α : Type} (q : Queue) (t : Closures α) : Queue → Closures α → Prop where
  | ring (timer : Nat) : Aside q t (q.enqueue (.firing timer)).2 t
  | drain : Aside q t q.drain.2 t
  | discard (timer : Nat) : Aside q t (q.discard timer).2 t
  | clear : Aside q t q.clear.2 t
  | keep (timer : Nat) (value : α) (repeating : Bool) :
      Aside q t q (t.insertTimer timer value repeating)
  | resolve (target : Target) : Aside q t q (t.resolve target).2
  | release (target : Target) : Aside q t q (t.release target).2
  | releaseAll : Aside q t q t.drain.2

/-- The steps in which an operation does what is left to do. -/
def Conclusion.acts (h : Handles) : Conclusion → List Act
  | .settled result => [.settle result]
  | .opens kind outcome => [.draw h.next, .enter kind h.next, .settle (.ok (outcome h.next))]
  | .loses id cause =>
      if h.isOpen .stream id then
        [.remove id true, .signal id, .settle (.error (.lost cause))]
      else [.remove id false, .settle (.error (.lost cause))]

theorem Coordinator.reply_of_waiting {c : Coordinator} {op completion : Nat} {request : Request}
    (hget : c.operations.get? op = some ⟨completion, request, .waiting⟩) (r : Reply) :
    c.reply op r = setStage { c with handles := ((request.conclusion r).carryOut c.handles).2 } op
      (.finished ((request.conclusion r).carryOut c.handles).1) := by
  simp only [reply, hget, conclude_eq]

namespace Shared

variable {α : Type}

/-- Nothing open, nothing running, and no call under way. -/
def start (settings : NetworkSettings) : Shared α :=
  ⟨settings, .empty, .empty, .empty, [], fun _ => .none, fun _ => .free, fun _ => .none⟩

/-- Let an operation stand somewhere else. -/
def place (s : Shared α) (op : Nat) (footing : Footing) : Shared α :=
  { s with footing := fun j => if j = op then footing else s.footing j }

/-- Let a thread be in another call. -/
def assign (s : Shared α) (thread : Nat) (call : Call) : Shared α :=
  { s with call := fun j => if j = thread then call else s.call j }

/-- Change the turns at the side of a connection at which a request needs one. -/
def turn (s : Shared α) (request : Request) (f : Turns Unit → Turns Unit) : Shared α :=
  { s with
    turns := fun side => if request.side? = some side then f (s.turns side) else s.turns side }

/-- Change the handles. -/
def withHandles (s : Shared α) (handles : Handles) : Shared α :=
  { s with network.handles := handles }

/-- Whether an operation has the turn that its request needs, if it needs one. -/
def HasTurn (s : Shared α) (op : Nat) (request : Request) : Prop :=
  ∀ side, request.side? = some side → (s.turns side).current = some (op, ())

/-- An operation is at a stage, and has come so far in it. -/
structure At (s : Shared α) (op completion : Nat) (request : Request) (stage : Stage)
    (footing : Footing) : Prop where
  operation : s.network.operations.get? op = some ⟨completion, request, stage⟩
  footing : s.footing op = footing

/-- One step of an operation, or of a thread. -/
inductive Step (s : Shared α) : Event → Shared α → Prop where
  | number (value : α) :
      Step s (.numbered (s.closures.insertCompletion value).1)
        { s with
          closures := (s.closures.insertCompletion value).2
          free := (s.closures.insertCompletion value).1 :: s.free }
  | start {completion : Nat} (request : Request) (hfree : completion ∈ s.free) :
      Step s (.op s.network.nextOperation (.start completion request))
        { s with
          network := (s.network.start request completion).2
          free := s.free.erase completion }
  | refuse {op completion : Nat} {request : Request} {cause : NetworkFault}
      (hat : s.At op completion request .spawned .none)
      (hobstacle : request.obstacle? s.network.handles = some cause) :
      Step s (.op op (.refuse cause)) ({ s with network := s.network.begin op }.place op .none)
  | find {op completion : Nat} {request : Request}
      (hat : s.At op completion request .spawned .none)
      (hobstacle : request.obstacle? s.network.handles = none) :
      Step s (.op op .find)
        ({ s with network := s.network.begin op }.place op (.waits false false))
  | ask {op completion : Nat} {request : Request} {watching : Bool}
      (hat : s.At op completion request .waiting (.waits false watching))
      (hside : request.side?.isSome = true) :
      Step s (.op op .ask) ((s.turn request (·.ask op ())).place op (.waits true watching))
  | watch {op completion : Nat} {request : Request} {asked : Bool}
      (hat : s.At op completion request .waiting (.waits asked false))
      (hwatches : request.watches s.settings = true) :
      Step s (.op op .watch) (s.place op (.waits asked true))
  | giveUp {op completion id : Nat} {request : Request} {kind : Kind} {asked : Bool}
      (hat : s.At op completion request .waiting (.waits asked true))
      (hhandle : request.handle? = some (kind, id))
      (hsignalled : s.network.handles.isSignalled id = true) :
      Step s (.op op (.giveUp id))
        (({ s with network := s.network.giveUp op }.turn request (·.leave op)).place op .none)
  | hear {op completion : Nat} {request : Request} {asked watching : Bool}
      (hat : s.At op completion request .waiting (.waits asked watching))
      (hturn : s.HasTurn op request) (r : Reply) :
      Step s (.op op (.hear r))
        ((s.turn request (·.leave op)).place op (.heard (request.conclusion r)))
  | draw {op completion : Nat} {request : Request} {kind : Kind} {outcome : Nat → Ready.Outcome}
      (hat : s.At op completion request .waiting (.heard (.opens kind outcome))) :
      Step s (.op op (.draw s.network.handles.next))
        ((s.withHandles { s.network.handles with next := s.network.handles.next + 1 }).place op
          (.drawn kind s.network.handles.next (outcome s.network.handles.next)))
  | enter {op completion id : Nat} {request : Request} {kind : Kind} {outcome : Ready.Outcome}
      (hat : s.At op completion request .waiting (.drawn kind id outcome)) :
      Step s (.op op (.enter kind id))
        ((s.withHandles
          { s.network.handles with table := s.network.handles.table.insert id kind }).place op
            (.heard (.settled (.ok outcome))))
  | remove {op completion id : Nat} {request : Request} {cause : IoFault}
      (hat : s.At op completion request .waiting (.heard (.loses id cause))) :
      Step s (.op op (.remove id (s.network.handles.detach .stream id).1))
        ((s.withHandles (s.network.handles.detach .stream id).2).place op
          (if (s.network.handles.detach .stream id).1 then .losing id cause
            else .heard (.settled (.error (.lost cause)))))
  | signal {op completion id : Nat} {request : Request} {cause : IoFault}
      (hat : s.At op completion request .waiting (.losing id cause)) :
      Step s (.op op (.signal id))
        ((s.withHandles (s.network.handles.signal id)).place op
          (.heard (.settled (.error (.lost cause)))))
  | settle {op completion : Nat} {request : Request} {result : Result}
      (hat : s.At op completion request .waiting (.heard (.settled result))) :
      Step s (.op op (.settle result))
        ({ s with network := s.network.setStage op (.finished (ofResult result)) }.place op .none)
  | queue {op completion : Nat} {request : Request} {outcome : Ready.Outcome}
      (hat : s.At op completion request (.finished outcome) .none) :
      Step s (.op op (.queue (.completion completion outcome)))
        ({ s with
          network := (s.network.deliver s.queue op).1
          queue := (s.network.deliver s.queue op).2 }.place op .none)
  | uncount {op completion : Nat} {request : Request}
      (hat : s.At op completion request .queued .none) :
      Step s (.op op .uncount) ({ s with network := s.network.retire op }.place op .leaving)
  | finish {op : Nat} (hgone : s.network.operations.get? op = none)
      (hleaving : s.footing op = .leaving) :
      Step s (.op op .finish) (s.place op .ended)
  | drop {op completion : Nat} {request : Request} {stage : Stage} {footing : Footing}
      (hat : s.At op completion request stage footing) (hsteady : footing.isSteady = true) :
      Step s (.op op (.drop !stage.isSpawned))
        (({ s with network := s.network.drop op }.turn request (·.leave op)).place op .ended)
  | detach {thread : Nat} (kind : Kind) (id : Nat) (hcall : s.call thread = .none) :
      Step s (.thread thread (.detach kind id (s.network.handles.detach kind id).1))
        ((s.withHandles (s.network.handles.detach kind id).2).assign thread
          (.closing kind id (s.network.handles.detach kind id).1
            (if (s.network.handles.detach kind id).1 then [id] else [])))
  | fire {thread id : Nat} (hleft : id ∈ (s.call thread).left) :
      Step s (.thread thread (.fire id))
        ((s.withHandles (s.network.handles.signal id)).assign thread ((s.call thread).fire id))
  | answer {thread id : Nat} {kind : Kind} {found : Bool}
      (hcall : s.call thread = .closing kind id found []) :
      Step s (.thread thread (.answer kind id found)) (s.assign thread .none)
  | detachAll {thread : Nat} (hcall : s.call thread = .none) :
      Step s (.thread thread (.detachAll s.network.handles.table.keys))
        ((s.withHandles { s.network.handles with table := .empty }).assign thread
          (.closingAll s.network.handles.table.keys s.network.handles.table.keys))
  | answerAll {thread : Nat} {taken : List Nat} (hcall : s.call thread = .closingAll taken []) :
      Step s (.thread thread (.answerAll taken)) (s.assign thread .none)
  | aside {queue : Queue} {closures : Closures α} (h : Aside s.queue s.closures queue closures) :
      Step s .aside { s with queue, closures }

/-- A run: one step after the other, of whichever operations and threads. -/
inductive Run : Shared α → List Event → Shared α → Prop where
  | nil (s : Shared α) : Run s [] s
  | cons {s t u : Shared α} {e : Event} {events : List Event}
      (first : Step s e t) (rest : Run t events u) : Run s (e :: events) u

variable {s t u : Shared α} {e : Event}

theorem Run.append {first second : List Event} (h : Run s first t) (k : Run t second u) :
    Run s (first ++ second) u := by
  induction h with
  | nil => exact k
  | cons step _ ih => exact .cons step (ih k)

theorem Run.snoc {events : List Event} (h : Run s events t) (step : Step t e u) :
    Run s (events ++ [e]) u :=
  h.append (.cons step (.nil u))

/-- What one step keeps, a run keeps. -/
theorem Run.keeps {P : Shared α → Prop} {events : List Event}
    (hstep : ∀ {a b : Shared α} {e : Event}, Step a e b → P a → P b) (h : Run s events t)
    (hs : P s) : P t := by
  induction h with
  | nil => exact hs
  | cons step _ ih => exact ih (hstep step hs)

/-- What holds at the start, and is kept by each step whatever has happened before it, holds of
every run. -/
theorem Run.history {settings : NetworkSettings} {P : List Event → Shared α → Prop}
    (hnil : P [] (start settings))
    (hstep : ∀ {earlier : List Event} {a b : Shared α} {e : Event},
      Run (start settings) earlier a → P earlier a → Step a e b → P (earlier ++ [e]) b)
    {events : List Event} (h : Run (start settings) events s) : P events s := by
  have hfrom : ∀ {a b : Shared α} {later : List Event}, Run a later b → ∀ {earlier : List Event},
      Run (start settings) earlier a → P earlier a → P (earlier ++ later) b := by
    intro a b later hrun
    induction hrun with
    | nil =>
        intro earlier _ hp
        rwa [List.append_nil]
    | cons step _ ih =>
        intro earlier hearlier hp
        have hlater := ih (hearlier.snoc step) (hstep hearlier hp step)
        rwa [List.append_assoc] at hlater
  exact hfrom h (.nil _) hnil

/-! ## In one go

With nothing in between, the steps of an operation that has got a reply, and those of a call, are
the operations of `Coordinator`. -/

theorem At.place {op completion : Nat} {request : Request} {stage : Stage} {footing : Footing}
    (hat : s.At op completion request stage footing) (footing' : Footing) :
    (s.place op footing').At op completion request stage footing' :=
  ⟨hat.operation, if_pos rfl⟩

theorem At.withHandles {op completion : Nat} {request : Request} {stage : Stage} {footing : Footing}
    (hat : s.At op completion request stage footing) (handles : Handles) :
    (s.withHandles handles).At op completion request stage footing :=
  ⟨hat.operation, hat.footing⟩

/-- An operation does what is left to do. -/
theorem run_conclusion {op completion : Nat} {request : Request} {conclusion : Conclusion}
    (hat : s.At op completion request .waiting (.heard conclusion)) :
    ∃ t : Shared α, Run s ((conclusion.acts s.network.handles).map (.op op)) t ∧
      t.turns = s.turns ∧ t.queue = s.queue ∧ t.network = Coordinator.setStage
        { s.network with handles := (conclusion.carryOut s.network.handles).2 } op
        (.finished (conclusion.carryOut s.network.handles).1) := by
  cases conclusion with
  | settled result => exact ⟨_, .cons (.settle hat) (.nil _), rfl, rfl, rfl⟩
  | opens kind outcome =>
      have hdrawn := (hat.withHandles
        { s.network.handles with next := s.network.handles.next + 1 }).place
          (.drawn kind s.network.handles.next (outcome s.network.handles.next))
      have hentered := (hdrawn.withHandles
        { table := s.network.handles.table.insert s.network.handles.next kind
          signalled := s.network.handles.signalled
          next := s.network.handles.next + 1 }).place
            (.heard (.settled (.ok (outcome s.network.handles.next))))
      exact ⟨_, .cons (.draw hat) (.cons (.enter hdrawn) (.cons (.settle hentered) (.nil _))), rfl,
        rfl, rfl⟩
  | loses id cause =>
      have hremove := Step.remove hat
      rw [Conclusion.acts]
      cases hopen : s.network.handles.isOpen .stream id with
      | true =>
          rw [Handles.detach_of_open hopen, if_pos rfl] at hremove
          have hlosing := (hat.withHandles
            { s.network.handles with table := s.network.handles.table.erase id }).place
              (.losing id cause)
          have hsignalled := (hlosing.withHandles (Handles.signal
            { s.network.handles with table := s.network.handles.table.erase id } id)).place
              (.heard (.settled (.error (.lost cause))))
          rw [if_pos rfl]
          refine ⟨_, .cons hremove (.cons (.signal hlosing) (.cons (.settle hsignalled) (.nil _))),
            rfl, rfl, ?_⟩
          rw [Conclusion.carryOut, Handles.close_of_open hopen]
          rfl
      | false =>
          rw [Handles.detach_of_not_open hopen, if_neg Bool.false_ne_true] at hremove
          have hkept := (hat.withHandles s.network.handles).place
            (.heard (.settled (.error (.lost cause))))
          rw [if_neg Bool.false_ne_true]
          refine ⟨_, .cons hremove (.cons (.settle hkept) (.nil _)), rfl, rfl, ?_⟩
          rw [Conclusion.carryOut, Handles.close_of_not_open hopen]
          rfl

theorem run_reply {op completion : Nat} {request : Request} {asked watching : Bool}
    (hat : s.At op completion request .waiting (.waits asked watching))
    (hturn : s.HasTurn op request) (r : Reply) :
    ∃ (acts : List Act) (t : Shared α), Run s (acts.map (.op op)) t ∧ t.queue = s.queue ∧
      t.network = s.network.reply op r := by
  have hheard : ((s.turn request (·.leave op)).place op (.heard (request.conclusion r))).At op
      completion request .waiting (.heard (request.conclusion r)) :=
    ⟨hat.operation, if_pos rfl⟩
  obtain ⟨t, hrun, -, hqueue, hnetwork⟩ := run_conclusion hheard
  refine ⟨.hear r :: (request.conclusion r).acts s.network.handles, t,
    .cons (.hear hat hturn r) hrun, hqueue, ?_⟩
  rw [hnetwork, Coordinator.reply_of_waiting hat.operation]
  rfl

theorem run_close (s : Shared α) {thread : Nat} (kind : Kind) (id : Nat)
    (hcall : s.call thread = .none) :
    ∃ fired t, Run s (.thread thread (.detach kind id (s.network.close kind id).1) ::
        (fired ++ [.thread thread (.answer kind id (s.network.close kind id).1)])) t ∧
      t.queue = s.queue ∧ t.network = (s.network.close kind id).2 := by
  have hdetach := Step.detach kind id hcall
  rw [Coordinator.close]
  cases hopen : s.network.handles.isOpen kind id with
  | true =>
      rw [Handles.detach_of_open hopen, if_pos rfl] at hdetach
      rw [Handles.close_of_open hopen]
      refine ⟨[.thread thread (.fire id)], _,
        .cons hdetach (.cons (.fire ?_) (.cons (.answer ?_) (.nil _))), rfl, rfl⟩
      · simp [assign, Call.left]
      · simp [assign, Call.fire]
  | false =>
      rw [Handles.detach_of_not_open hopen, if_neg Bool.false_ne_true] at hdetach
      rw [Handles.close_of_not_open hopen]
      exact ⟨[], _, .cons hdetach (.cons (.answer (if_pos rfl)) (.nil _)), rfl, rfl⟩

/-- The signals that are left fire in any order, here from the last one to the first. -/
theorem run_fireAll (order : List Nat) : ∀ (s : Shared α) {thread : Nat} {taken : List Nat},
    s.call thread = .closingAll taken order.reverse → order.Nodup →
    ∃ t, Run s (order.map (fun id => .thread thread (.fire id)) ++
        [.thread thread (.answerAll taken)]) t ∧ t.queue = s.queue ∧
      t.network = (s.withHandles { s.network.handles with
        signalled := order.reverse ++ s.network.handles.signalled }).network := by
  induction order with
  | nil =>
      intro s thread taken hcall _
      exact ⟨_, .cons (.answerAll hcall) (.nil _), rfl, rfl⟩
  | cons id order ih =>
      intro s thread taken hcall hnodup
      obtain ⟨hnot, hrest⟩ := List.nodup_cons.1 hnodup
      rw [List.reverse_cons] at hcall
      have hleft : id ∈ (s.call thread).left := by
        rw [hcall]
        simp [Call.left]
      have hfire := Step.fire hleft
      have hafter : (s.call thread).fire id = .closingAll taken order.reverse := by
        rw [hcall, Call.fire, List.erase_append_right _ (by simpa using hnot)]
        simp
      rw [hafter] at hfire
      obtain ⟨t, hrun, hqueue, hnetwork⟩ := ih
        ((s.withHandles (s.network.handles.signal id)).assign thread
          (.closingAll taken order.reverse)) (if_pos rfl) hrest
      refine ⟨t, .cons hfire hrun, hqueue, ?_⟩
      rw [hnetwork, List.reverse_cons, List.append_assoc]
      rfl

theorem run_closeAll (s : Shared α) {thread : Nat} (hcall : s.call thread = .none) :
    ∃ taken fired t, Run s (.thread thread (.detachAll taken) ::
        (fired ++ [.thread thread (.answerAll taken)])) t ∧
      t.queue = s.queue ∧ taken.length = s.network.closeAll.1 ∧
      t.network = s.network.closeAll.2 := by
  have hkeys := s.network.handles.table.nodup_keys
  obtain ⟨t, hrun, hqueue, hnetwork⟩ := run_fireAll s.network.handles.table.keys.reverse
    ((s.withHandles { s.network.handles with table := .empty }).assign thread
      (.closingAll s.network.handles.table.keys s.network.handles.table.keys))
    (by rw [List.reverse_reverse]; exact if_pos rfl) ((List.reverse_perm _).nodup_iff.2 hkeys)
  refine ⟨_, _, t, .cons (.detachAll hcall) hrun, hqueue, List.length_map .., ?_⟩
  rw [hnetwork, List.reverse_reverse]
  rfl

end Shared
end ScriptHost.Network
