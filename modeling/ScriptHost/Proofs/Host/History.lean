import ScriptHost.Host.Basic
import ScriptHost.Proofs.Guest.Steps
import ScriptHost.Proofs.Submission.Fate

/-!
# What has happened to submissions

A host forgets which jobs have passed its channel and how executions have ended.  Here this is kept
beside a run (`history`): each event adds to it what it submits, lets in, takes or finishes.

Whatever enters the channel goes to its end and whatever is taken comes from its front (`flow`), so
that what has entered has been taken or is still there, in the same order.
-/

namespace ScriptHost

open Guest (Code Request)
open Ready (Callback Finish Invocation PassCounts)
open Submission (Bridge Channel History Job Result)

/-- Whether an event can bring a call into being or move it on. -/
def Event.isCall : Event → Bool
  | .submit .. | .enter _ | .giveUp _ | .collect _ | .work => true
  | _ => false

namespace Host

variable {σ : Type}

/-- The request that an event submits. -/
def submits (h : Host σ) : Event → List Request
  | .submit false source chunk timeoutMillis =>
      [⟨h.bridge.nextId, source, chunk, timeoutMillis⟩]
  | _ => []

/-- A job enters if the channel lets it. -/
def entry (h : Host σ) (job : Job) : List Job :=
  match h.channel.send job with
  | .ok _ => [job]
  | .error _ => []

/-- The job that an event lets into the channel. -/
def enters (h : Host σ) : Event → List Job
  | .enter call =>
      match h.bridge.calls.get? call with
      | some ⟨request, _, .entering⟩ => h.entry (.execute request)
      | _ => []
  | .tearDown => h.entry .releaseClosures
  | .stop => h.entry .stop
  | .drop => if h.held then h.entry .stop else []
  | _ => []

/-- The job that the interpreter takes. -/
def takes (h : Host σ) : Event → List Job
  | .takeJob =>
      match h.interpreter, h.channel.take with
      | .selecting, some (job, _) => [job]
      | _, _ => []
  | _ => []

/-- The execution that ends. -/
def finishes (h : Host σ) : Event → List (Request × Result)
  | .work =>
      match h.interpreter with
      | .executing request since code =>
          match code.advance (h.services, h.guest) with
          | (some (.inl ending), _) =>
              [(request, Result.ofFinish ending ((h.now - since) * 1000))]
          | _ => []
      | _ => []
  | _ => []

/-- What has happened after one more event. -/
def record (past : History) (h : Host σ) (e : Event) : History where
  submitted := past.submitted ++ h.submits e
  entered := past.entered ++ h.enters e
  taken := past.taken ++ h.takes e
  finished := past.finished ++ h.finishes e

/-- What has happened after a run. -/
def history (g : Guest σ) : Host σ → History → List Event → History
  | _, past, [] => past
  | h, past, e :: events => history g (react g h e) (record past h e) events

theorem history_append (g : Guest σ) (events later : List Event) :
    ∀ (h : Host σ) (past : History), history g h past (events ++ later) =
      history g (run g h events) (history g h past events) later := by
  induction events with
  | nil => exact fun _ _ => rfl
  | cons e events ih => exact fun h past => ih (react g h e) (record past h e)

/-! ## The channel -/

theorem entry_of_ok {h : Host σ} {job : Job} {channel : Channel}
    (hsend : h.channel.send job = .ok channel) : h.entry job = [job] := by
  rw [entry, hsend]

theorem entry_of_error {h : Host σ} {job : Job} {why : Submission.Refusal}
    (hsend : h.channel.send job = .error why) : h.entry job = [] := by
  rw [entry, hsend]

theorem jobs_stop (h : Host σ) : h.stop.channel.jobs = h.channel.jobs ++ h.entry .stop := by
  rw [stop]
  cases hsend : h.channel.send .stop with
  | ok channel =>
      rw [entry_of_ok hsend]
      exact Channel.send_eq_ok hsend
  | error why => rw [entry_of_error hsend, List.append_nil]

theorem jobs_tearDown (h : Host σ) :
    h.tearDown.2.channel.jobs = h.channel.jobs ++ h.entry .releaseClosures := by
  rw [tearDown]
  cases hsend : h.channel.send .releaseClosures with
  | ok channel =>
      rw [entry_of_ok hsend]
      exact Channel.send_eq_ok hsend
  | error why => rw [entry_of_error hsend, List.append_nil]

theorem jobs_drop (h : Host σ) : h.drop.channel.jobs = h.channel.jobs ++ h.enters .drop := by
  rw [drop, enters]
  by_cases hheld : h.held = true
  · rw [if_pos hheld, if_pos hheld]
    exact jobs_stop h
  · rw [if_neg hheld, if_neg hheld, List.append_nil]

theorem jobs_enter (h : Host σ) (call : Nat) :
    (h.enter call).channel.jobs = h.channel.jobs ++ h.enters (.enter call) := by
  show (h.bridge.enter h.channel call).2.jobs = _
  cases hget : h.bridge.calls.get? call with
  | none => simp only [Bridge.enter, enters, hget, List.append_nil]
  | some made =>
      obtain ⟨request, since, stage⟩ := made
      cases stage with
      | entering =>
          simp only [Bridge.enter, enters, hget]
          cases hsend : h.channel.send (.execute request) with
          | ok channel =>
              rw [entry_of_ok hsend]
              exact Channel.send_eq_ok hsend
          | error why =>
              rw [entry_of_error hsend]
              cases why <;> exact (List.append_nil _).symm
      | awaiting | answered | ended => simp only [Bridge.enter, enters, hget, List.append_nil]

/-- What the interpreter goes on with after it has taken a job. -/
def onJob (g : Guest σ) (h : Host σ) : Job → Interpreter σ
  | .execute request => .executing request h.now (g.execute request)
  | .releaseClosures => .draining
  | .stop => .stopped

/-- The interpreter takes the job in front or none. -/
theorem takeJob_cases (g : Guest σ) (h : Host σ) :
    h.takes .takeJob = [] ∧ (h.takeJob? g).getD h = h ∨
      ∃ job, h.interpreter = .selecting ∧ h.takes .takeJob = [job] ∧
        h.channel.jobs = job :: ((h.takeJob? g).getD h).channel.jobs ∧
        ((h.takeJob? g).getD h).bridge = h.bridge ∧
        ((h.takeJob? g).getD h).interpreter = onJob g h job := by
  unfold takes takeJob?
  cases hinterpreter : h.interpreter with
  | selecting =>
      cases htake : h.channel.take with
      | none => exact .inl ⟨rfl, rfl⟩
      | some taken =>
          obtain ⟨job, channel⟩ := taken
          refine .inr ⟨job, rfl, rfl, ?_⟩
          rw [Channel.take_eq_some htake]
          cases job with
          | execute | releaseClosures | stop => exact ⟨rfl, rfl, rfl⟩
  | executing | executed | completed | counted | draining | passing | invoking | stopped
  | crashed => exact .inl ⟨rfl, rfl⟩

/-! ## The interpreter between two jobs -/

/-- What the interpreter does in one step between two jobs, with the execution that ends. -/
inductive Works (g : Guest σ) (h : Host σ) : List (Request × Result) → Host σ → Prop where
  | waits : Works g h [] h
  | executes {request : Request} {since : Nat} {code rest : Code (Services × σ) Value}
      {services : Services} {guest : σ} (hinterpreter : h.interpreter = .executing request since code)
      (hadvance : code.advance (h.services, h.guest) = (some (.inr rest), services, guest)) :
      Works g h [] { h with services, guest, interpreter := .executing request since rest }
  | finishes {request : Request} {since : Nat} {code : Code (Services × σ) Value}
      {ending : Finish Value} {world : Services × σ}
      (hinterpreter : h.interpreter = .executing request since code)
      (hadvance : code.advance (h.services, h.guest) = (some (.inl ending), world)) :
      Works g h [(request, Result.ofFinish ending ((h.now - since) * 1000))]
        { h with
          interpreter := .executed request (Result.ofFinish ending ((h.now - since) * 1000)) }
  | completes {request : Request} {result : Result}
      (hinterpreter : h.interpreter = .executed request result) :
      Works g h [] { h.count .completed with interpreter := .completed request result }
  | succeeds {request : Request} {result : Result}
      (hinterpreter : h.interpreter = .completed request result) :
      Works g h [] { h with interpreter := .counted request result }
  | fails {request : Request} {result : Result}
      (hinterpreter : h.interpreter = .completed request result) :
      Works g h [] { h.count .failed with interpreter := .counted request result }
  | answers {request : Request} {result : Result}
      (hinterpreter : h.interpreter = .counted request result) :
      Works g h []
        { h with bridge := h.bridge.answer request.id result, interpreter := .draining }
  | drains (hinterpreter : h.interpreter = .draining) :
      Works g h []
        { h with
          services := { h.services with queue := h.services.queue.drain.2 }
          interpreter := .passing h.services.queue.drain.1 .zero }
  | selects {counts : PassCounts} (hinterpreter : h.interpreter = .passing [] counts) :
      Works g h [] { h with interpreter := .selecting }
  | invokes {c : Callback} {rest : List Callback} {counts : PassCounts}
      (hinterpreter : h.interpreter = .passing (c :: rest) counts) :
      Works g h [] { h with interpreter := .invoking (g.invoke c) rest counts }
  | goes_on {code next : Code (Services × σ) Invocation} {rest : List Callback}
      {counts : PassCounts} {services : Services} {guest : σ}
      (hinterpreter : h.interpreter = .invoking code rest counts)
      (hadvance : code.advance (h.services, h.guest) = (some (.inr next), services, guest)) :
      Works g h [] { h with services, guest, interpreter := .invoking next rest counts }
  | crashes {code : Code (Services × σ) Invocation} {rest : List Callback} {counts : PassCounts}
      (message : String) (hinterpreter : h.interpreter = .invoking code rest counts) :
      Works g h [] (h.leave (.crashed message))
  | returns {code : Code (Services × σ) Invocation} {rest : List Callback} {counts : PassCounts}
      (ending : Finish Invocation) (hinterpreter : h.interpreter = .invoking code rest counts) :
      Works g h [] { h with interpreter := .passing rest (counts.add ending) }

theorem works (g : Guest σ) (h : Host σ) :
    Works g h (h.finishes .work) ((h.work? g).getD h) := by
  cases hinterpreter : h.interpreter with
  | selecting | stopped | crashed =>
      simp only [work?, finishes, hinterpreter]
      exact .waits
  | executing request since code =>
      rcases hadvance : code.advance (h.services, h.guest) with
        ⟨_ | ending | rest, services, guest⟩ <;>
        simp only [work?, finishes, hinterpreter, hadvance]
      · exact .waits
      · exact .finishes hinterpreter hadvance
      · exact .executes hinterpreter hadvance
  | executed request result =>
      simp only [work?, finishes, hinterpreter]
      exact .completes hinterpreter
  | completed request result =>
      simp only [work?, finishes, hinterpreter]
      cases result.success with
      | true => exact .succeeds hinterpreter
      | false => exact .fails hinterpreter
  | counted request result =>
      simp only [work?, finishes, hinterpreter]
      exact .answers hinterpreter
  | draining =>
      simp only [work?, finishes, hinterpreter]
      exact .drains hinterpreter
  | passing rest counts =>
      cases rest with
      | nil =>
          simp only [work?, finishes, hinterpreter]
          exact .selects hinterpreter
      | cons c rest =>
          simp only [work?, finishes, hinterpreter]
          exact .invokes hinterpreter
  | invoking code rest counts =>
      simp only [work?, finishes, hinterpreter]
      split
      · exact .waits
      · rename_i hadvance
        exact .goes_on hinterpreter hadvance
      · rename_i message _ hadvance
        exact .crashes message hinterpreter
      · rename_i ending _ _ hadvance
        exact .returns ending hinterpreter

/-- The steps of the interpreter between two jobs leave the channel alone. -/
theorem Works.jobs {g : Guest σ} {h h' : Host σ} {finished : List (Request × Result)}
    (hworks : Works g h finished h') : h'.channel.jobs = h.channel.jobs := by
  cases hworks <;> rfl

/-- A job that enters goes to the end of the channel, and one that is taken comes from its front. -/
theorem flow (g : Guest σ) (h : Host σ) (e : Event) :
    h.channel.jobs ++ h.enters e = h.takes e ++ (react g h e).channel.jobs := by
  cases e with
  | enter call => exact (jobs_enter h call).symm
  | tearDown => exact (jobs_tearDown h).symm
  | stop => exact (jobs_stop h).symm
  | drop => exact (jobs_drop h).symm
  | takeJob =>
      refine (List.append_nil _).trans ?_
      rcases takeJob_cases g h with ⟨htakes, hsame⟩ | ⟨job, -, htakes, hjobs, -⟩
      · rw [htakes, react, hsame, List.nil_append]
      · rw [htakes, hjobs]
        rfl
  | work => exact (List.append_nil _).trans (works g h).jobs.symm
  | takeToken =>
      refine (List.append_nil _).trans ?_
      simp only [react, takeToken?]
      split <;> rfl
  | disconnect =>
      refine (List.append_nil _).trans ?_
      simp only [react, disconnect?]
      split
      · split <;> rfl
      · rfl
  | conclude =>
      refine (List.append_nil _).trans ?_
      simp only [react, conclude]
      split <;> rfl
  | submit | giveUp | collect | elapse | wakeTimer | cancelTimer | begin | reply | giveUpOperation
  | deliver | retire | offer | signal | discard | cloneBridge | dropBridge =>
      exact List.append_nil _

/-! ## The calls -/

theorem request?_entry (h : Host σ) {job : Job} (hjob : job.request? = none) :
    (h.entry job).filterMap Job.request? = [] := by
  rw [entry]
  split
  · rw [List.filterMap_cons_none hjob, List.filterMap_nil]
  · rfl

/-- Only a call lets a request into the channel. -/
theorem request?_enters (h : Host σ) {e : Event} (he : e.isCall = false) :
    (h.enters e).filterMap Job.request? = [] := by
  cases e with
  | enter => cases he
  | tearDown | stop => exact request?_entry h rfl
  | drop =>
      rw [enters]
      split
      · exact request?_entry h rfl
      · rfl
  | submit | giveUp | collect | takeJob | takeToken | disconnect | work | elapse | wakeTimer
  | cancelTimer | begin | reply | giveUpOperation | deliver | retire | offer | signal | discard
  | conclude | cloneBridge | dropBridge => rfl

theorem bridge_stop (h : Host σ) : h.stop.bridge = h.bridge := by
  rw [stop]
  split <;> rfl

theorem bridge_react (g : Guest σ) (h : Host σ) {e : Event} (he : e.isCall = false) :
    (react g h e).bridge = h.bridge := by
  cases e with
  | submit | enter | giveUp | collect | work => cases he
  | takeJob =>
      rcases takeJob_cases g h with ⟨-, hsame⟩ | ⟨job, -, -, -, hbridge, -⟩
      · rw [react, hsame]
      · rw [react, hbridge]
  | takeToken =>
      simp only [react, takeToken?]
      split <;> rfl
  | disconnect =>
      simp only [react, disconnect?]
      split
      · split <;> rfl
      · rfl
  | stop => exact bridge_stop h
  | conclude =>
      simp only [react, conclude]
      split <;> rfl
  | drop =>
      simp only [react, drop]
      split
      · exact bridge_stop h
      · rfl
  | elapse | wakeTimer | cancelTimer | begin | reply | giveUpOperation | deliver | retire | offer
  | signal | discard | tearDown | cloneBridge | dropBridge => rfl

/-! ## What the interpreter is doing -/

theorem interpreter_stop (h : Host σ) : h.stop.interpreter = h.interpreter := by
  rw [stop]
  split <;> rfl

/-- Between two jobs the interpreter takes a wake-up or ends; every other change of what it is doing
is its own work. -/
theorem interpreter_react (g : Guest σ) (h : Host σ) (e : Event) :
    e = .work ∨ e = .takeJob ∨ (react g h e).interpreter = h.interpreter ∨
      h.interpreter = .selecting ∧
        ((react g h e).interpreter = .draining ∨ (react g h e).interpreter = .stopped) := by
  cases e with
  | work => exact .inl rfl
  | takeJob => exact .inr (.inl rfl)
  | takeToken =>
      simp only [react, takeToken?]
      split
      · rename_i hselecting _
        exact .inr (.inr (.inr ⟨hselecting, .inl rfl⟩))
      · exact .inr (.inr (.inl rfl))
  | disconnect =>
      simp only [react, disconnect?]
      split
      · rename_i hselecting
        split
        · exact .inr (.inr (.inr ⟨hselecting, .inr rfl⟩))
        · exact .inr (.inr (.inl rfl))
      · exact .inr (.inr (.inl rfl))
  | stop => exact .inr (.inr (.inl (interpreter_stop h)))
  | conclude =>
      refine .inr (.inr (.inl ?_))
      simp only [react, conclude]
      split <;> rfl
  | drop =>
      refine .inr (.inr (.inl ?_))
      simp only [react, drop]
      split
      · exact interpreter_stop h
      · rfl
  | submit | enter | giveUp | collect | elapse | wakeTimer | cancelTimer | begin | reply
  | giveUpOperation | deliver | retire | offer | signal | discard | tearDown | cloneBridge
  | dropBridge => exact .inr (.inr (.inl rfl))

end Host
end ScriptHost
