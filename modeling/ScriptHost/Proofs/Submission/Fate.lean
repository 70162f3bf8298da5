import ScriptHost.Proofs.Submission.Calls

/-!
# The fate of a submission

`History` is what has happened to submissions.  The stage of a call tells part of it (`Fate`): a call
that has ended with a result has entered, and the result is that of its own request; one that has
ended with a shutdown never entered; and a timeout names its own call.  `Accounts` says that a bridge
agrees with what has happened.
-/

namespace ScriptHost.Submission

open Guest (Request)

/-- The request that a job is to execute. -/
def Job.request? : Job → Option Request
  | .execute request => some request
  | _ => none

/-- What has happened to submissions so far. -/
structure History where
  submitted : List Request
  /-- The jobs that have entered the channel, in order. -/
  entered : List Job
  /-- The jobs that the interpreter has taken, in order. -/
  taken : List Job
  /-- The executions that have ended. -/
  finished : List (Request × Result)

namespace History

/-- Nothing has happened. -/
def empty : History := ⟨[], [], [], []⟩

/-- The requests whose jobs have entered. -/
def requested (p : History) : List Request := p.entered.filterMap Job.request?

/-- The requests whose executions have begun. -/
def begun (p : History) : List Request := p.taken.filterMap Job.request?

/-- The requests whose jobs have entered before the first job to stop. -/
def due (p : History) : List Request := (p.entered.takeWhile (· ≠ .stop)).filterMap Job.request?

end History

/-- What the stage of a call tells of its request. -/
def Fate (past : History) (call : Call) : Prop :=
  match call.stage with
  | .entering => call.request ∉ past.requested
  | .awaiting => call.request ∈ past.requested
  | .answered result | .ended (.ok result) =>
      call.request ∈ past.requested ∧ (call.request, result) ∈ past.finished
  | .ended (.error fault) =>
      fault = .shutDown ∧ call.request ∉ past.requested ∨ fault = Bridge.timeout call.request

/-- A bridge agrees with what has happened. -/
structure Accounts (b : Bridge) (past : History) : Prop where
  calls : ∀ id call, b.calls.get? id = some call →
    call.request.id = id ∧ id < b.nextId ∧ Fate past call
  submitted : ∀ request ∈ past.submitted, ∃ call,
    b.calls.get? request.id = some call ∧ call.request = request
  numbered : (past.submitted.map (·.id)).Nodup
  requested : ∀ request ∈ past.requested, ∃ call,
    b.calls.get? request.id = some call ∧ call.request = request
  distinct : (past.requested.map (·.id)).Nodup
  timeouts : b.stats.timedOut = UInt64.ofNat b.timeouts

theorem accounts_empty : Accounts .empty .empty where
  calls _ _ h := by cases h
  submitted _ h := by cases h
  numbered := List.nodup_nil
  requested _ h := by cases h
  distinct := List.nodup_nil
  timeouts := rfl

/-- More executions may have ended in the meantime. -/
theorem Fate.later {past later : History} {call : Call} (h : Fate past call)
    (hrequested : later.requested = past.requested)
    (hfinished : ∀ p ∈ past.finished, p ∈ later.finished) : Fate later call := by
  unfold Fate at h ⊢
  rw [hrequested]
  split
  · rename_i hstage
    rw [hstage] at h
    exact h
  · rename_i hstage
    rw [hstage] at h
    exact h
  · rename_i result hstage
    rw [hstage] at h
    exact ⟨h.1, hfinished _ h.2⟩
  · rename_i result hstage
    rw [hstage] at h
    exact ⟨h.1, hfinished _ h.2⟩
  · rename_i fault hstage
    rw [hstage] at h
    exact h

namespace Accounts

variable {b : Bridge} {past : History}

theorem later (h : Accounts b past) {later : History} (hsubmitted : later.submitted = past.submitted)
    (hrequested : later.requested = past.requested)
    (hfinished : ∀ p ∈ past.finished, p ∈ later.finished) : Accounts b later where
  calls id call hget := by
    obtain ⟨hid, hnext, hfate⟩ := h.calls id call hget
    exact ⟨hid, hnext, hfate.later hrequested hfinished⟩
  submitted := by rw [hsubmitted]; exact h.submitted
  numbered := by rw [hsubmitted]; exact h.numbered
  requested := by rw [hrequested]; exact h.requested
  distinct := by rw [hrequested]; exact h.distinct
  timeouts := h.timeouts

/-- The counters that do not count timeouts do not matter. -/
theorem count (h : Accounts b past) {c : Counter} (hc : c ≠ .timedOut) :
    Accounts { b with stats := b.stats.count c } past :=
  ⟨h.calls, h.submitted, h.numbered, h.requested, h.distinct, by
    cases c with
    | timedOut => exact absurd rfl hc
    | submitted | completed | failed => exact h.timeouts⟩

theorem get?_nextId (h : Accounts b past) : b.calls.get? b.nextId = none := by
  cases hget : b.calls.get? b.nextId with
  | none => rfl
  | some call => exact absurd (h.calls _ call hget).2.1 (Nat.lt_irrefl _)

theorem id_ne_nextId (h : Accounts b past) {id : Nat} {call : Call}
    (hget : b.calls.get? id = some call) : id ≠ b.nextId :=
  Nat.ne_of_lt (h.calls id call hget).2.1

/-- A new submission takes a number that no other one has. -/
theorem submit (h : Accounts b past) (now : Nat) (source chunk : String) (timeoutMillis : Nat)
    {later : History}
    (hsubmitted : later.submitted =
      past.submitted ++ [⟨b.nextId, source, chunk, timeoutMillis⟩])
    (hrequested : later.requested = past.requested) (hfinished : later.finished = past.finished) :
    Accounts (b.submit false now source chunk timeoutMillis).2 later where
  calls id call hget := by
    rw [Bridge.get?_submit] at hget
    split at hget
    · rename_i hid
      cases hget
      refine ⟨hid.symm, hid ▸ Nat.lt_succ_self _, ?_⟩
      show _ ∉ later.requested
      rw [hrequested]
      intro hin
      obtain ⟨call, hget, -⟩ := h.requested _ hin
      exact h.id_ne_nextId hget rfl
    · obtain ⟨hid, hnext, hfate⟩ := h.calls id call hget
      exact ⟨hid, Nat.lt_succ_of_lt hnext, hfate.later hrequested fun p hp => hfinished ▸ hp⟩
  submitted request hin := by
    rw [Bridge.get?_submit]
    rw [hsubmitted, List.mem_append, List.mem_singleton] at hin
    rcases hin with hin | rfl
    · obtain ⟨call, hget, hrequest⟩ := h.submitted request hin
      exact ⟨call, by rw [if_neg (h.id_ne_nextId hget), hget], hrequest⟩
    · exact ⟨_, if_pos rfl, rfl⟩
  numbered := by
    rw [hsubmitted, List.map_append, List.nodup_append]
    refine ⟨h.numbered, by simp, ?_⟩
    intro id hid other hother
    obtain ⟨request, hin, rfl⟩ := List.mem_map.1 hid
    obtain ⟨call, hget, -⟩ := h.submitted request hin
    rw [List.map_singleton, List.mem_singleton] at hother
    rw [hother]
    exact h.id_ne_nextId hget
  requested request hin := by
    rw [hrequested] at hin
    obtain ⟨call, hget, hrequest⟩ := h.requested request hin
    rw [Bridge.get?_submit]
    exact ⟨call, by rw [if_neg (h.id_ne_nextId hget), hget], hrequest⟩
  distinct := by
    rw [hrequested]
    exact h.distinct
  timeouts := by
    have hcount := b.calls.countP_values_insert Call.isTimedOut
      ⟨⟨b.nextId, source, chunk, timeoutMillis⟩, now, .entering⟩ h.get?_nextId
    refine h.timeouts.trans (congrArg UInt64.ofNat ?_)
    exact hcount.symm

/-- A call goes to another stage, and the history goes on with it. -/
theorem setStage (h : Accounts b past) {id : Nat} {call : Call} (stage : Stage)
    (hget : b.calls.get? id = some call) {later : History}
    (hsubmitted : later.submitted = past.submitted)
    (hrequested : ∀ request ∈ later.requested, request = call.request ∨ request ∈ past.requested)
    (hdistinct : (later.requested.map (·.id)).Nodup)
    (hothers : ∀ other, other.request.id ≠ id → Fate past other → Fate later other)
    (hfate : Fate later { call with stage }) {stats : Stats}
    (htimeouts : stats.timedOut = UInt64.ofNat (b.setStage id stage).timeouts) :
    Accounts { b.setStage id stage with stats } later where
  calls j other hother := by
    rw [Bridge.get?_setStage] at hother
    split at hother
    · rename_i hj
      rw [hj, hget] at hother
      cases hother
      obtain ⟨hid, hnext, -⟩ := h.calls id call hget
      exact ⟨hj ▸ hid, hj ▸ hnext, hfate⟩
    · rename_i hj
      obtain ⟨hid, hnext, hold⟩ := h.calls j other hother
      exact ⟨hid, hnext, hothers other (hid ▸ hj) hold⟩
  submitted request hin := by
    rw [hsubmitted] at hin
    exact b.exists_request_setStage id stage (h.submitted request hin)
  numbered := by rw [hsubmitted]; exact h.numbered
  requested request hin := by
    refine b.exists_request_setStage id stage ?_
    rcases hrequested request hin with rfl | hin
    · exact ⟨call, (h.calls id call hget).1.symm ▸ hget, rfl⟩
    · exact h.requested request hin
  distinct := hdistinct
  timeouts := htimeouts

/-- A call goes to another stage, and nothing enters or finishes. -/
theorem move (h : Accounts b past) {id : Nat} {call : Call} (stage : Stage)
    (hget : b.calls.get? id = some call) (hfate : Fate past { call with stage })
    (hbefore : call.isTimedOut = false)
    (hafter : ({ call with stage } : Call).isTimedOut = false) :
    Accounts (b.setStage id stage) past := by
  refine h.setStage stage hget rfl (fun _ hin => .inr hin) h.distinct (fun _ _ hold => hold)
    hfate ?_
  rw [b.timeouts_setStage stage hget hbefore, hafter]
  exact h.timeouts

/-- The job of a call enters the channel. -/
theorem enter (h : Accounts b past) {id : Nat} {call : Call}
    (hget : b.calls.get? id = some call) (hstage : call.stage = .entering) {later : History}
    (hsubmitted : later.submitted = past.submitted)
    (hrequested : later.requested = past.requested ++ [call.request])
    (hfinished : later.finished = past.finished) :
    Accounts (b.setStage id .awaiting) later := by
  obtain ⟨hid, -, hfate⟩ := h.calls id call hget
  -- A call has one job, which has not entered before.
  have hnew : ∀ request ∈ past.requested, request.id ≠ id := by
    intro request hin heq
    obtain ⟨other, hother, rfl⟩ := h.requested request hin
    rw [heq, hget] at hother
    cases hother
    rw [Fate, hstage] at hfate
    exact hfate hin
  have htimedOut : call.isTimedOut = false := by rw [Call.isTimedOut, hstage]
  refine h.setStage .awaiting hget hsubmitted ?_ ?_ ?_ ?_ ?_
  · intro request hin
    rw [hrequested, List.mem_append, List.mem_singleton] at hin
    exact hin.symm
  · rw [hrequested, List.map_append, List.nodup_append]
    refine ⟨h.distinct, by simp, ?_⟩
    intro j hj other hother
    obtain ⟨request, hin, rfl⟩ := List.mem_map.1 hj
    rw [List.map_singleton, List.mem_singleton, hid] at hother
    rw [hother]
    exact hnew request hin
  · intro other hother hold
    have hmem : other.request ∈ later.requested ↔ other.request ∈ past.requested := by
      rw [hrequested, List.mem_append, List.mem_singleton]
      refine or_iff_left fun heq => hother ?_
      rw [heq, hid]
    unfold Fate at hold ⊢
    rw [hmem, hfinished]
    exact hold
  · show call.request ∈ later.requested
    rw [hrequested]
    exact List.mem_append_right _ (List.mem_singleton_self _)
  · rw [b.timeouts_setStage _ hget htimedOut]
    exact h.timeouts

/-- A call ends because nobody takes jobs any more. -/
theorem refuse (h : Accounts b past) {id : Nat} {call : Call}
    (hget : b.calls.get? id = some call) (hstage : call.stage = .entering) :
    Accounts (b.setStage id (.ended (.error .shutDown))) past := by
  have hfate := (h.calls id call hget).2.2
  rw [Fate, hstage] at hfate
  exact h.move _ hget (.inl ⟨rfl, hfate⟩) (by rw [Call.isTimedOut, hstage]) rfl

theorem giveUp (h : Accounts b past) (id : Nat) : Accounts (b.giveUp id) past := by
  rcases b.giveUp_cases id with hsame | ⟨call, hget, hstage, hgone⟩
  · rwa [hsame]
  · have htimedOut : call.isTimedOut = false := by
      rcases hstage with hstage | hstage <;> rw [Call.isTimedOut, hstage]
    rw [hgone]
    refine h.setStage (.ended (.error (Bridge.timeout call.request))) hget rfl
      (fun _ hin => .inr hin) h.distinct (fun _ _ hold => hold) (Or.inr rfl) ?_
    rw [b.timeouts_setStage _ hget htimedOut]
    show b.stats.timedOut + 1 = UInt64.ofNat (b.timeouts + 1)
    rw [h.timeouts]
    exact (UInt64.ofNat_add b.timeouts 1).symm

theorem answer (h : Accounts b past) {request : Request} {result : Result}
    (hfinished : (request, result) ∈ past.finished) (hrequest : request ∈ past.requested) :
    Accounts (b.answer request.id result) past := by
  rcases b.answer_cases request.id result with hsame | ⟨call, hget, hstage, hanswered⟩
  · rwa [hsame]
  · -- The number of the request leads to its own call and to no other.
    obtain ⟨own, hown, hsource⟩ := h.requested request hrequest
    rw [hget] at hown
    cases hown
    rw [hanswered]
    exact h.move _ hget ⟨hsource.symm ▸ hrequest, hsource.symm ▸ hfinished⟩
      (by rw [Call.isTimedOut, hstage]) rfl

theorem collect (h : Accounts b past) (id : Nat) : Accounts (b.collect id) past := by
  rcases b.collect_cases id with hsame | ⟨call, result, hget, hstage, hcollected⟩
  · rwa [hsame]
  · have hfate := (h.calls id call hget).2.2
    rw [Fate, hstage] at hfate
    rw [hcollected]
    exact h.move _ hget hfate (by rw [Call.isTimedOut, hstage]) rfl

end Accounts
end ScriptHost.Submission
