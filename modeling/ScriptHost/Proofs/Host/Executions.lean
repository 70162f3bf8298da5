import ScriptHost.Proofs.Host.History

/-!
# Executions

However submissions, timeouts, executions, passes and the end of a host come one after the other, the
interpreter executes what has entered the channel before the first job to stop, in this order and
once each, and nothing else.  A call ends with the result of its own execution, or with a timeout that
names it, or with the answer that the host has shut down.

`Chronicle` is the invariant: it says how the channel, the interpreter and the bridge agree with what
has happened so far.
-/

namespace ScriptHost.Host

open Guest (Code Request)
open Submission (Accounts Bridge Channel History Job Result)

variable {σ : Type}

/-- How far the interpreter has come with the executions that it has begun: all have finished but for
one that is at work, and the result of the last one is on its way to its caller. -/
def Runs (g : Guest σ) (past : History) : Interpreter σ → Prop
  | .executing request _ code =>
      past.begun = past.finished.map (·.1) ++ [request] ∧ (g.execute request).Reaches code
  | .executed request result | .completed request result | .counted request result =>
      past.begun = past.finished.map (·.1) ∧ (request, result) ∈ past.finished
  | _ => past.begun = past.finished.map (·.1)

/-- A host agrees with what has happened. -/
structure Chronicle (g : Guest σ) (h : Host σ) (past : History) : Prop where
  passed : past.entered = past.taken ++ h.channel.jobs
  /-- The first job to stop is the last job that is taken. -/
  stops : .stop ∉ past.taken ∨
    h.interpreter = .stopped ∧ ∃ earlier, past.taken = earlier ++ [.stop] ∧ .stop ∉ earlier
  runs : Runs g past h.interpreter
  /-- A result is that of the request's own code. -/
  results : ∀ request result, (request, result) ∈ past.finished →
    ∃ ending micros, (g.execute request).Reaches (.finish ending) ∧
      result = Result.ofFinish ending micros
  accounts : Accounts h.bridge past

/-- A call has ended and its job has not entered. -/
structure Barred (h : Host σ) (past : History) (call : Submission.Call) : Prop where
  known : h.bridge.calls.get? call.request.id = some call
  ended : call.isEnded = true
  absent : call.request ∉ past.requested

theorem chronicle_fresh (g : Guest σ) (capacity : Nat) (guest : σ) :
    Chronicle g (fresh capacity guest) .empty where
  passed := rfl
  stops := .inl (by simp [History.empty])
  runs := rfl
  results _ _ h := by cases h
  accounts := Submission.accounts_empty

/-! ## Adding to the history -/

theorem requested_record (past : History) (h : Host σ) (e : Event) :
    (record past h e).requested = past.requested ++ (h.enters e).filterMap Job.request? :=
  List.filterMap_append

theorem begun_record (past : History) (h : Host σ) (e : Event) :
    (record past h e).begun = past.begun ++ (h.takes e).filterMap Job.request? :=
  List.filterMap_append

theorem takes_eq_nil (h : Host σ) {e : Event} (he : e ≠ .takeJob) : h.takes e = [] := by
  unfold takes
  split
  · exact absurd rfl he
  · rfl

theorem finishes_eq_nil (h : Host σ) {e : Event} (he : e ≠ .work) : h.finishes e = [] := by
  unfold finishes
  split
  · exact absurd rfl he
  · rfl

/-- Nothing is submitted and no request enters. -/
theorem accounts_record {b : Bridge} {past : History} (ha : Accounts b past) {h : Host σ} {e : Event}
    (hsubmits : h.submits e = []) (henters : (h.enters e).filterMap Job.request? = []) :
    Accounts b (record past h e) := by
  refine ha.later ?_ ?_ ?_
  · show past.submitted ++ h.submits e = _
    rw [hsubmits, List.append_nil]
  · rw [requested_record, henters, List.append_nil]
  · exact fun p hp => List.mem_append_left _ hp

/-- Only what has begun and what has finished matters. -/
theorem Runs.congr {g : Guest σ} {past later : History} {interpreter : Interpreter σ}
    (h : Runs g past interpreter) (hbegun : later.begun = past.begun)
    (hfinished : later.finished = past.finished) : Runs g later interpreter := by
  unfold Runs at h ⊢
  rw [hbegun, hfinished]
  exact h

theorem Works.runs {g : Guest σ} {h h' : Host σ} {finished : List (Request × Result)}
    (hworks : Works g h finished h') {past later : History} (hruns : Runs g past h.interpreter)
    (hbegun : later.begun = past.begun)
    (hfinished : later.finished = past.finished ++ finished) : Runs g later h'.interpreter := by
  cases hworks with
  | waits => exact hruns.congr hbegun (hfinished.trans (List.append_nil _))
  | executes hinterpreter hadvance =>
      rw [hinterpreter] at hruns
      obtain ⟨hlast, hcode⟩ := hruns.congr hbegun (hfinished.trans (List.append_nil _))
      exact ⟨hlast, hcode.next hadvance⟩
  | finishes hinterpreter hadvance =>
      rw [hinterpreter] at hruns
      refine ⟨?_, ?_⟩
      · rw [hbegun, hfinished, List.map_append]
        exact hruns.1
      · rw [hfinished]
        exact List.mem_append_right _ (List.mem_singleton_self _)
  | completes hinterpreter | succeeds hinterpreter | fails hinterpreter =>
      rw [hinterpreter] at hruns
      exact hruns.congr hbegun (hfinished.trans (List.append_nil _))
  | answers hinterpreter =>
      rw [hinterpreter] at hruns
      exact (hruns.congr hbegun (hfinished.trans (List.append_nil _))).1
  | drains hinterpreter | selects hinterpreter | invokes hinterpreter | goes_on hinterpreter
  | crashes message hinterpreter | returns ending hinterpreter =>
      rw [hinterpreter] at hruns
      exact hruns.congr hbegun (hfinished.trans (List.append_nil _))

/-- What finishes is what the code of a request has come to. -/
theorem Works.results {g : Guest σ} {h h' : Host σ} {finished : List (Request × Result)}
    (hworks : Works g h finished h') {past : History} (hruns : Runs g past h.interpreter)
    {request : Request} {result : Result} (hin : (request, result) ∈ finished) :
    ∃ ending micros, (g.execute request).Reaches (.finish ending) ∧
      result = Result.ofFinish ending micros := by
  cases hworks with
  | finishes hinterpreter hadvance =>
      obtain ⟨rfl, rfl⟩ := Prod.mk.inj (List.mem_singleton.1 hin)
      rw [hinterpreter] at hruns
      obtain ⟨rfl, -⟩ := Code.advance_ending hadvance
      exact ⟨_, _, hruns.2, rfl⟩
  | waits | executes | completes | succeeds | fails | answers | drains | selects | invokes
  | goes_on | crashes | returns => cases hin

/-- The interpreter sends a result only to a call that waits for it. -/
theorem Works.known {g : Guest σ} {h h' : Host σ} {finished : List (Request × Result)}
    (hworks : Works g h finished h') {id : Nat} {call : Submission.Call}
    (hget : h.bridge.calls.get? id = some call) (hended : call.isEnded = true) :
    h'.bridge.calls.get? id = some call := by
  cases hworks with
  | answers => exact Bridge.answer_of_ended _ _ hget hended
  | waits | executes | finishes | completes | succeeds | fails | drains | selects | invokes
  | goes_on | crashes | returns => exact hget

namespace Chronicle

variable {g : Guest σ} {h : Host σ} {past : History}

theorem passed_react (hc : Chronicle g h past) (e : Event) :
    (record past h e).entered = (record past h e).taken ++ (react g h e).channel.jobs := by
  show past.entered ++ h.enters e = past.taken ++ h.takes e ++ _
  rw [hc.passed, List.append_assoc, List.append_assoc, flow g h e]

/-! ## The interpreter -/

/-- An execution that has begun has entered. -/
theorem requested_of_begun (hc : Chronicle g h past) {request : Request}
    (hin : request ∈ past.begun) : request ∈ past.requested := by
  rw [History.requested, hc.passed, List.filterMap_append]
  exact List.mem_append_left _ hin

theorem runs_work (hc : Chronicle g h past) :
    Runs g (record past h .work) ((h.work? g).getD h).interpreter :=
  (works g h).runs hc.runs (by rw [begun_record]; exact List.append_nil _) rfl

/-- The interpreter begins what it takes. -/
theorem runs_takeJob (hc : Chronicle g h past) :
    Runs g (record past h .takeJob) ((h.takeJob? g).getD h).interpreter := by
  have hbegun := begun_record past h .takeJob
  have hfinished : (record past h .takeJob).finished = past.finished := List.append_nil _
  rcases takeJob_cases g h with ⟨htakes, hsame⟩ | ⟨job, hselecting, htakes, -, -, hnext⟩
  · rw [htakes, List.filterMap_nil, List.append_nil] at hbegun
    rw [hsame]
    exact hc.runs.congr hbegun hfinished
  · -- An interpreter that is free to take a job has finished all that it has begun.
    have hall : past.begun = past.finished.map (·.1) := by
      have hruns := hc.runs
      rwa [hselecting] at hruns
    rw [htakes, hall] at hbegun
    rw [hnext]
    cases job with
    | execute request => exact ⟨by rw [hfinished]; exact hbegun, .refl⟩
    | releaseClosures | stop =>
        show _ = _
        rw [hfinished, hbegun]
        exact List.append_nil _

theorem runs_react (hc : Chronicle g h past) (e : Event) :
    Runs g (record past h e) (react g h e).interpreter := by
  by_cases hwork : e = .work
  · subst hwork
    exact hc.runs_work
  by_cases hjob : e = .takeJob
  · subst hjob
    exact hc.runs_takeJob
  have hbegun : (record past h e).begun = past.begun := by
    rw [begun_record, takes_eq_nil h hjob]
    exact List.append_nil _
  have hfinished : (record past h e).finished = past.finished := by
    show past.finished ++ h.finishes e = _
    rw [finishes_eq_nil h hwork, List.append_nil]
  have hruns := hc.runs.congr hbegun hfinished
  rcases interpreter_react g h e with rfl | rfl | hsame | ⟨hselecting, hnext | hnext⟩
  · exact absurd rfl hwork
  · exact absurd rfl hjob
  · rwa [hsame]
  · rw [hselecting] at hruns
    rw [hnext]
    exact hruns
  · rw [hselecting] at hruns
    rw [hnext]
    exact hruns

/-- Once the job to stop has been taken, nothing is taken any more. -/
theorem stops_react (hc : Chronicle g h past) (e : Event) :
    .stop ∉ (record past h e).taken ∨ (react g h e).interpreter = .stopped ∧
      ∃ earlier, (record past h e).taken = earlier ++ [.stop] ∧ .stop ∉ earlier := by
  by_cases hjob : e = .takeJob
  · subst hjob
    show _ ∉ past.taken ++ h.takes .takeJob ∨
      ((h.takeJob? g).getD h).interpreter = _ ∧ ∃ earlier, past.taken ++ h.takes .takeJob = _ ∧ _
    rcases takeJob_cases g h with ⟨htakes, hsame⟩ | ⟨job, hselecting, htakes, -, -, hnext⟩
    · rw [htakes, hsame, List.append_nil]
      exact hc.stops
    · have hnot : .stop ∉ past.taken := by
        rcases hc.stops with hnot | ⟨hstopped, -⟩
        · exact hnot
        · rw [hselecting] at hstopped
          cases hstopped
      rw [htakes, hnext]
      cases job with
      | stop => exact .inr ⟨rfl, past.taken, rfl, hnot⟩
      | execute | releaseClosures =>
          refine .inl ?_
          simpa using hnot
  · have htaken : (record past h e).taken = past.taken := by
      show past.taken ++ h.takes e = _
      rw [takes_eq_nil h hjob, List.append_nil]
    rw [htaken]
    refine hc.stops.imp_right ?_
    rintro ⟨hstopped, hlast⟩
    -- No event brings back an interpreter that has stopped.
    refine ⟨?_, hlast⟩
    rcases interpreter_react g h e with rfl | rfl | hsame | ⟨hselecting, -⟩
    · show ((h.work? g).getD h).interpreter = _
      simp only [work?, hstopped]
      exact hstopped
    · exact absurd rfl hjob
    · rw [hsame, hstopped]
    · rw [hselecting] at hstopped
      cases hstopped

theorem results_react (hc : Chronicle g h past) (e : Event) :
    ∀ request result, (request, result) ∈ (record past h e).finished →
      ∃ ending micros, (g.execute request).Reaches (.finish ending) ∧
        result = Result.ofFinish ending micros := by
  intro request result hin
  rcases List.mem_append.1 hin with hin | hin
  · exact hc.results request result hin
  · by_cases hwork : e = .work
    · subst hwork
      exact (works g h).results hc.runs hin
    · rw [finishes_eq_nil h hwork] at hin
      cases hin

/-! ## The bridge -/

theorem accounts_enter (hc : Chronicle g h past) (call : Nat) :
    Accounts (h.enter call).bridge (record past h (.enter call)) := by
  have hjobs := jobs_enter h call
  change (h.bridge.enter h.channel call).2.jobs = _ at hjobs
  show Accounts (h.bridge.enter h.channel call).1 _
  rcases h.bridge.enter_cases h.channel call with
    hnothing | ⟨made, hget, hstage, ⟨entered, hsend, henter⟩ | ⟨-, henter⟩⟩
  · rw [hnothing] at hjobs ⊢
    refine accounts_record hc.accounts rfl ?_
    rw [List.self_eq_append_right.1 hjobs]
    rfl
  · rw [henter] at hjobs ⊢
    rw [Channel.send_eq_ok hsend] at hjobs
    refine hc.accounts.enter hget hstage (List.append_nil _) ?_ (List.append_nil _)
    rw [requested_record, ← List.append_cancel_left hjobs]
    rfl
  · rw [henter] at hjobs ⊢
    refine accounts_record (hc.accounts.refuse hget hstage) rfl ?_
    rw [List.self_eq_append_right.1 hjobs]
    rfl

/-- A result that is sent belongs to the request that it is sent for. -/
theorem accounts_of_works (hc : Chronicle g h past) {h' : Host σ}
    {finished : List (Request × Result)} (hworks : Works g h finished h') :
    Accounts h'.bridge past := by
  cases hworks with
  | completes | fails => exact hc.accounts.count (by decide)
  | answers hinterpreter =>
      have hruns := hc.runs
      rw [hinterpreter] at hruns
      obtain ⟨hall, hfinished⟩ := hruns
      refine hc.accounts.answer hfinished (hc.requested_of_begun ?_)
      rw [hall]
      exact List.mem_map.2 ⟨_, hfinished, rfl⟩
  | waits | executes | finishes | succeeds | drains | selects | invokes | goes_on | crashes
  | returns => exact hc.accounts

theorem accounts_react (hc : Chronicle g h past) (e : Event) :
    Accounts (react g h e).bridge (record past h e) := by
  cases e with
  | submit onInterpreter source chunk timeoutMillis =>
      cases onInterpreter with
      | true => exact accounts_record hc.accounts rfl rfl
      | false =>
          refine hc.accounts.submit h.now source chunk timeoutMillis rfl ?_ (List.append_nil _)
          exact (requested_record _ _ _).trans (List.append_nil _)
  | enter call => exact hc.accounts_enter call
  | giveUp call => exact accounts_record (hc.accounts.giveUp call) rfl rfl
  | collect call => exact accounts_record (hc.accounts.collect call) rfl rfl
  | work => exact accounts_record (hc.accounts_of_works (works g h)) rfl rfl
  | takeJob | takeToken | disconnect | elapse | wakeTimer | cancelTimer | begin | reply
  | giveUpOperation | deliver | retire | offer | signal | discard | tearDown | stop | conclude | drop
  | cloneBridge | dropBridge =>
      refine accounts_record ?_ rfl (request?_enters h rfl)
      rw [bridge_react g h rfl]
      exact hc.accounts

theorem react (hc : Chronicle g h past) (e : Event) :
    Chronicle g (Host.react g h e) (record past h e) where
  passed := hc.passed_react e
  stops := hc.stops_react e
  runs := hc.runs_react e
  results := hc.results_react e
  accounts := hc.accounts_react e

/-! ## What follows -/

/-- Once the job to stop has been taken, all that was due has begun. -/
theorem begun_eq_due (hc : Chronicle g h past) (hstop : .stop ∈ past.taken) :
    past.begun = past.due := by
  rcases hc.stops with hnot | ⟨-, earlier, hlast, hnot⟩
  · exact absurd hstop hnot
  · have hbefore : ∀ job ∈ earlier, decide (job ≠ .stop) = true := by
      intro job hjob
      exact decide_eq_true fun heq => hnot (heq ▸ hjob)
    rw [History.due, hc.passed, History.begun, hlast, List.append_assoc,
      List.takeWhile_append_of_pos hbefore, List.filterMap_append, List.filterMap_append]
    rfl

theorem nodup_begun (hc : Chronicle g h past) : (past.begun.map (·.id)).Nodup := by
  have hdistinct := hc.accounts.distinct
  rw [History.requested, hc.passed, List.filterMap_append, List.map_append] at hdistinct
  exact (List.nodup_append.1 hdistinct).1

/-- What has begun has finished, but for what is at work. -/
theorem begun_cases (hc : Chronicle g h past) :
    past.begun = past.finished.map (·.1) ∨
      ∃ request since code, h.interpreter = .executing request since code ∧
        past.begun = past.finished.map (·.1) ++ [request] := by
  have hruns := hc.runs
  cases hinterpreter : h.interpreter with
  | executing request since code =>
      rw [hinterpreter] at hruns
      exact .inr ⟨request, since, code, rfl, hruns.1⟩
  | executed | completed | counted =>
      rw [hinterpreter] at hruns
      exact .inl hruns.1
  | selecting | draining | passing | invoking | stopped | crashed =>
      rw [hinterpreter] at hruns
      exact .inl hruns

theorem requested_react_cases (h : Host σ) (past : History) (e : Event) {request : Request}
    (hin : request ∈ (record past h e).requested) :
    request ∈ past.requested ∨ ∃ id call, h.bridge.calls.get? id = some call ∧
      call.stage = .entering ∧ call.request = request := by
  rw [requested_record] at hin
  rcases List.mem_append.1 hin with hin | hin
  · exact .inl hin
  · refine .inr ?_
    cases he : e.isCall with
    | false =>
        rw [request?_enters h he] at hin
        cases hin
    | true =>
        cases e with
        | enter call =>
            simp only [enters] at hin
            split at hin
            · rename_i own since hget
              rw [entry] at hin
              split at hin
              · exact ⟨call, _, hget, rfl, (List.mem_singleton.1 hin).symm⟩
              · cases hin
            · cases hin
        | submit | giveUp | collect | work => cases hin
        | takeJob | takeToken | disconnect | elapse | wakeTimer | cancelTimer | begin | reply
        | giveUpOperation | deliver | retire | offer | signal | discard | tearDown | stop
        | conclude | drop | cloneBridge | dropBridge => cases he

theorem known_react (hc : Chronicle g h past) (e : Event) {id : Nat} {call : Submission.Call}
    (hget : h.bridge.calls.get? id = some call) (hended : call.isEnded = true) :
    (Host.react g h e).bridge.calls.get? id = some call := by
  cases he : e.isCall with
  | false => rwa [bridge_react g h he]
  | true =>
      cases e with
      | submit onInterpreter source chunk timeoutMillis =>
          cases onInterpreter with
          | true => exact hget
          | false =>
              refine (Bridge.get?_submit _ _ _ _ _ _).trans ?_
              rw [if_neg (hc.accounts.id_ne_nextId hget), hget]
      | enter other => exact Bridge.enter_of_ended _ other hget hended
      | giveUp other => exact Bridge.giveUp_of_ended other hget hended
      | collect other => exact Bridge.collect_of_ended other hget hended
      | work => exact (works g h).known hget hended
      | takeJob | takeToken | disconnect | elapse | wakeTimer | cancelTimer | begin | reply
      | giveUpOperation | deliver | retire | offer | signal | discard | tearDown | stop | conclude
      | drop | cloneBridge | dropBridge => cases he

theorem barred_react (hc : Chronicle g h past) (e : Event) {call : Submission.Call}
    (hb : Barred h past call) : Barred (Host.react g h e) (record past h e) call where
  known := hc.known_react e hb.known hb.ended
  ended := hb.ended
  absent := by
    intro hin
    rcases requested_react_cases h past e hin with hin | ⟨id, other, hget, hstage, hrequest⟩
    · exact hb.absent hin
    · -- What enters is the request of a call that has not ended, so it is another one.
      have hid := (hc.accounts.calls id other hget).1
      have hknown := hb.known
      have hended := hb.ended
      rw [← hrequest, hid, hget] at hknown
      cases hknown
      rw [Submission.Call.isEnded, hstage] at hended
      cases hended

end Chronicle

/-! ## A run -/

theorem Chronicle.run {g : Guest σ} {events : List Event} :
    ∀ {h : Host σ} {past : History}, Chronicle g h past →
      Chronicle g (Host.run g h events) (history g h past events) := by
  induction events with
  | nil => exact fun hc => hc
  | cons e events ih => exact fun hc => ih (hc.react e)

theorem Chronicle.barred_run {g : Guest σ} {events : List Event} {call : Submission.Call} :
    ∀ {h : Host σ} {past : History}, Chronicle g h past → Barred h past call →
      Barred (Host.run g h events) (history g h past events) call := by
  induction events with
  | nil => exact fun _ hb => hb
  | cons e events ih => exact fun hc hb => ih (hc.react e) (hc.barred_react e hb)

end ScriptHost.Host
