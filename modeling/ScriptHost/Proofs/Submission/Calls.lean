import ScriptHost.Proofs.Data.Table
import ScriptHost.Submission.Bridge

/-!
# The calls of a bridge

Each step of a bridge makes one new call or moves one call to another stage.  Here is how the calls
look afterwards, and how many of them have ended because their time was over.  The only jobs that
calls let into the channel are requests to execute their own source.
-/

namespace ScriptHost.Submission

open Guest (Request)

/-! ## The channel -/

theorem Channel.send_eq_ok {c d : Channel} {job : Job} (h : c.send job = .ok d) :
    d.jobs = c.jobs ++ [job] := by
  rw [send] at h
  split at h
  · cases h
  · split at h
    · cases h
    · cases h
      rfl

theorem Channel.take_eq_some {c d : Channel} {job : Job} (h : c.take = some (job, d)) :
    c.jobs = job :: d.jobs := by
  rw [take] at h
  split at h
  · cases h
  · rename_i hjobs
    cases h
    exact hjobs

/-! ## The calls -/

/-- Whether a call has ended because its time was over. -/
def Call.isTimedOut (call : Call) : Bool :=
  match call.stage with
  | .ended (.error (.executionTimeout _ _)) => true
  | _ => false

/-- Whether a call has ended. -/
def Call.isEnded (call : Call) : Bool :=
  match call.stage with
  | .ended _ => true
  | _ => false

namespace Bridge

/-- The number of calls that have ended because their time was over. -/
def timeouts (b : Bridge) : Nat := b.calls.values.countP Call.isTimedOut

theorem get?_submit (b : Bridge) (now : Nat) (source chunk : String) (timeoutMillis id : Nat) :
    (b.submit false now source chunk timeoutMillis).2.calls.get? id =
      if id = b.nextId then some ⟨⟨b.nextId, source, chunk, timeoutMillis⟩, now, .entering⟩
      else b.calls.get? id := by
  rw [submit, if_neg Bool.false_ne_true]
  exact Table.get?_insert _ _ _ _

theorem get?_setStage (b : Bridge) (id : Nat) (stage : Stage) (j : Nat) :
    (b.setStage id stage).calls.get? j =
      if j = id then (b.calls.get? j).map fun call => { call with stage } else b.calls.get? j :=
  Table.get?_modify _ _ _ _

/-- A stage leaves the request of a call alone. -/
theorem exists_request_setStage (b : Bridge) (id : Nat) (stage : Stage) {j : Nat}
    {request : Request} (h : ∃ call, b.calls.get? j = some call ∧ call.request = request) :
    ∃ call, (b.setStage id stage).calls.get? j = some call ∧ call.request = request := by
  obtain ⟨call, hget, hrequest⟩ := h
  rw [get?_setStage, hget]
  split
  · exact ⟨_, rfl, hrequest⟩
  · exact ⟨_, rfl, hrequest⟩

/-- The number of timeouts after a call has gone to another stage. -/
theorem timeouts_setStage (b : Bridge) {id : Nat} {call : Call} (stage : Stage)
    (hget : b.calls.get? id = some call) (hcall : call.isTimedOut = false) :
    (b.setStage id stage).timeouts =
      b.timeouts + if ({ call with stage } : Call).isTimedOut then 1 else 0 := by
  have h := b.calls.countP_values_modify Call.isTimedOut (fun call => { call with stage }) hget
  rw [hcall, if_neg Bool.false_ne_true] at h
  exact h

/-! ## What the steps of a call do

A step does nothing unless the call is at a certain stage. -/

/-- A call that has ended stays as it is while another one goes to another stage. -/
theorem get?_setStage_of_ended (b : Bridge) {id j : Nat} {call ended : Call} (stage : Stage)
    (hget : b.calls.get? id = some call) (hcall : call.isEnded = false)
    (hended : b.calls.get? j = some ended) (hisEnded : ended.isEnded = true) :
    (b.setStage id stage).calls.get? j = some ended := by
  rw [get?_setStage, if_neg, hended]
  rintro rfl
  rw [hget] at hended
  cases hended
  rw [hcall] at hisEnded
  cases hisEnded

theorem enter_cases (b : Bridge) (channel : Channel) (id : Nat) :
    b.enter channel id = (b, channel) ∨
      ∃ call, b.calls.get? id = some call ∧ call.stage = .entering ∧
        ((∃ entered, channel.send (.execute call.request) = .ok entered ∧
            b.enter channel id = (b.setStage id .awaiting, entered)) ∨
          channel.send (.execute call.request) = .error .unattended ∧
            b.enter channel id = (b.setStage id (.ended (.error .shutDown)), channel)) := by
  unfold enter
  split
  · rename_i request since hget
    split
    · rename_i entered hsend
      exact .inr ⟨_, hget, rfl, .inl ⟨entered, hsend, rfl⟩⟩
    · exact .inl rfl
    · rename_i hsend
      exact .inr ⟨_, hget, rfl, .inr ⟨hsend, rfl⟩⟩
  · exact .inl rfl

theorem giveUp_cases (b : Bridge) (id : Nat) :
    b.giveUp id = b ∨
      ∃ call, b.calls.get? id = some call ∧ (call.stage = .entering ∨ call.stage = .awaiting) ∧
        b.giveUp id =
          { b.setStage id (.ended (.error (timeout call.request))) with
            stats := b.stats.count .timedOut } := by
  unfold giveUp
  split
  · rename_i request since hget
    exact .inr ⟨_, hget, .inl rfl, rfl⟩
  · rename_i request since hget
    exact .inr ⟨_, hget, .inr rfl, rfl⟩
  · exact .inl rfl

theorem answer_cases (b : Bridge) (id : Nat) (result : Result) :
    b.answer id result = b ∨
      ∃ call, b.calls.get? id = some call ∧ call.stage = .awaiting ∧
        b.answer id result = b.setStage id (.answered result) := by
  unfold answer
  split
  · rename_i request since hget
    exact .inr ⟨_, hget, rfl, rfl⟩
  · exact .inl rfl

theorem collect_cases (b : Bridge) (id : Nat) :
    b.collect id = b ∨
      ∃ call result, b.calls.get? id = some call ∧ call.stage = .answered result ∧
        b.collect id = b.setStage id (.ended (.ok result)) := by
  unfold collect
  split
  · rename_i request since result hget
    exact .inr ⟨_, result, hget, rfl, rfl⟩
  · exact .inl rfl

section Ended

variable {b : Bridge} {j : Nat} {ended : Call}

theorem enter_of_ended (channel : Channel) (id : Nat) (hended : b.calls.get? j = some ended)
    (hisEnded : ended.isEnded = true) : (b.enter channel id).1.calls.get? j = some ended := by
  rcases b.enter_cases channel id with
    hsame | ⟨call, hget, hstage, ⟨entered, -, henter⟩ | ⟨-, henter⟩⟩
  · rwa [hsame]
  · rw [henter]
    exact b.get?_setStage_of_ended _ hget (by rw [Call.isEnded, hstage]) hended hisEnded
  · rw [henter]
    exact b.get?_setStage_of_ended _ hget (by rw [Call.isEnded, hstage]) hended hisEnded

theorem giveUp_of_ended (id : Nat) (hended : b.calls.get? j = some ended)
    (hisEnded : ended.isEnded = true) : (b.giveUp id).calls.get? j = some ended := by
  rcases b.giveUp_cases id with hsame | ⟨call, hget, hstage, hgone⟩
  · rwa [hsame]
  · rw [hgone]
    refine b.get?_setStage_of_ended _ hget ?_ hended hisEnded
    rcases hstage with hstage | hstage <;> rw [Call.isEnded, hstage]

theorem answer_of_ended (id : Nat) (result : Result) (hended : b.calls.get? j = some ended)
    (hisEnded : ended.isEnded = true) : (b.answer id result).calls.get? j = some ended := by
  rcases b.answer_cases id result with hsame | ⟨call, hget, hstage, hanswered⟩
  · rwa [hsame]
  · rw [hanswered]
    exact b.get?_setStage_of_ended _ hget (by rw [Call.isEnded, hstage]) hended hisEnded

theorem collect_of_ended (id : Nat) (hended : b.calls.get? j = some ended)
    (hisEnded : ended.isEnded = true) : (b.collect id).calls.get? j = some ended := by
  rcases b.collect_cases id with hsame | ⟨call, result, hget, hstage, hcollected⟩
  · rwa [hsame]
  · rw [hcollected]
    exact b.get?_setStage_of_ended _ hget (by rw [Call.isEnded, hstage]) hended hisEnded

end Ended

end Bridge
end ScriptHost.Submission
