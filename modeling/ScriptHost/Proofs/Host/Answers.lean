import Mathlib.Data.List.Nodup
import ScriptHost.Proofs.Host.Executions

/-!
# Every submission has one fate

The interpreter sends the result of an execution in a step of its own, after it has counted it.  In
between the caller may have given up, and then the result is dropped.  A caller that has not is the one
whose result is sent next (`Prompt`), so no result of an execution that has finished is lost on the way
(`Prompt.reaches`).

With what the executions are (`Chronicle`) this makes up the fate of a submission.
-/

namespace ScriptHost.Host

open Guest (Request)
open Submission (Bridge Call Fate History Result)

variable {σ : Type}

/-! ## Results on their way -/

/-- The result that is on its way to its caller, with its request. -/
def answering? : Interpreter σ → Option (Request × Result)
  | .executed request result | .completed request result | .counted request result =>
      some (request, result)
  | _ => none

/-- A caller that still waits though its execution has finished gets the result next. -/
def Prompt (h : Host σ) (past : History) : Prop :=
  ∀ id call result, h.bridge.calls.get? id = some call → call.stage = .awaiting →
    (call.request, result) ∈ past.finished →
    answering? h.interpreter = some (call.request, result)

/-- Sending a result leaves no call waiting for it. -/
theorem get?_answer {b : Bridge} {id j : Nat} {result : Result} {call : Call}
    (hget : (b.answer id result).calls.get? j = some call) (hawaiting : call.stage = .awaiting) :
    j ≠ id ∧ b.calls.get? j = some call := by
  unfold Bridge.answer at hget
  split at hget
  · rename_i request since hbefore
    rw [Bridge.get?_setStage] at hget
    split at hget
    · rename_i hj
      rw [hj, hbefore] at hget
      cases hget
      cases hawaiting
    · rename_i hj
      exact ⟨hj, hget⟩
  · rename_i hnone
    refine ⟨?_, hget⟩
    rintro rfl
    obtain ⟨request, since, stage⟩ := call
    cases hawaiting
    exact hnone request since hget

/-- Moving a call to a stage other than waiting leaves no more calls waiting. -/
theorem get?_setStage_awaiting {b : Bridge} {id j : Nat} {stage : Submission.Stage} {call : Call}
    (hstage : stage ≠ .awaiting) (hget : (b.setStage id stage).calls.get? j = some call)
    (hawaiting : call.stage = .awaiting) : b.calls.get? j = some call := by
  rw [Bridge.get?_setStage] at hget
  split at hget
  · obtain ⟨before, -, rfl⟩ := Option.map_eq_some_iff.1 hget
    exact absurd hawaiting hstage
  · exact hget

theorem Prompt.works {g : Guest σ} {h h' : Host σ} {past : History} {finished : List (Request × Result)}
    (hprompt : Prompt h past) (hchronicle : Chronicle g h past) (hworks : Works g h finished h') :
    Prompt h' { past with finished := past.finished ++ finished } := by
  intro j call result hget hawaiting hin
  have hin := List.mem_append.1 hin
  cases hworks with
  | waits => exact hprompt j call result hget hawaiting (by simpa using hin)
  | completes hinterpreter | succeeds hinterpreter | fails hinterpreter =>
      have hanswering := hprompt j call result hget hawaiting (by simpa using hin)
      rw [hinterpreter] at hanswering
      exact hanswering
  | finishes hinterpreter =>
      rcases hin with hin | hin
      · have hanswering := hprompt j call result hget hawaiting hin
        rw [hinterpreter] at hanswering
        cases hanswering
      · rw [List.mem_singleton.1 hin]
        rfl
  | answers hinterpreter =>
      obtain ⟨hother, hbefore⟩ := get?_answer hget hawaiting
      have hanswering := hprompt j call result hbefore hawaiting (by simpa using hin)
      rw [hinterpreter] at hanswering
      -- the number of the request leads to its own call
      have hid := (hchronicle.accounts.calls j call hbefore).1
      obtain ⟨rfl, -⟩ := Prod.mk.inj (Option.some.inj hanswering)
      exact absurd hid.symm hother
  | executes hinterpreter | drains hinterpreter | selects hinterpreter | invokes hinterpreter
  | goes_on hinterpreter | crashes _ hinterpreter | returns _ hinterpreter =>
      have hanswering := hprompt j call result hget hawaiting (by simpa using hin)
      rw [hinterpreter] at hanswering
      cases hanswering

/-- Unless it is free to take a job, the interpreter changes by its own work only. -/
theorem interpreter_react_of_busy (g : Guest σ) {h : Host σ} {e : Event}
    (hbusy : h.interpreter ≠ .selecting) (hwork : e ≠ .work) :
    (react g h e).interpreter = h.interpreter := by
  rcases interpreter_react g h e with heq | rfl | hsame | ⟨hselecting, -⟩
  · exact absurd heq hwork
  · rcases takeJob_cases g h with ⟨-, hsame⟩ | ⟨job, hselecting, -⟩
    · rw [react, hsame]
    · exact absurd hselecting hbusy
  · exact hsame
  · exact absurd hselecting hbusy

theorem Chronicle.requested_of_finished {g : Guest σ} {h : Host σ} {past : History}
    (hchronicle : Chronicle g h past) {request : Request} {result : Result}
    (hin : (request, result) ∈ past.finished) : request ∈ past.requested := by
  have hmem : request ∈ past.finished.map (·.1) := List.mem_map.2 ⟨_, hin, rfl⟩
  refine hchronicle.requested_of_begun ?_
  rcases hchronicle.begun_cases with hall | ⟨_, _, _, -, hall⟩
  · rwa [hall]
  · rw [hall]
    exact List.mem_append_left _ hmem

/-- A call that waits though its execution has finished has waited before, unless it is the
interpreter that is at work. -/
theorem Chronicle.get?_of_awaiting {g : Guest σ} {h : Host σ} {past : History}
    (hchronicle : Chronicle g h past) {e : Event} (hwork : e ≠ .work) {j : Nat} {call : Call}
    {result : Result} (hget : (Host.react g h e).bridge.calls.get? j = some call)
    (hawaiting : call.stage = .awaiting) (hfinished : (call.request, result) ∈ past.finished) :
    h.bridge.calls.get? j = some call := by
  cases he : e.isCall with
  | false => rwa [bridge_react g h he] at hget
  | true =>
      cases e with
      | submit onInterpreter source chunk timeoutMillis =>
          cases onInterpreter with
          | true => exact hget
          | false =>
              have hget := (Bridge.get?_submit _ _ _ _ _ _).symm.trans hget
              split at hget
              · cases hget
                cases hawaiting
              · exact hget
      | enter other =>
          change (h.bridge.enter h.channel other).1.calls.get? j = _ at hget
          rcases h.bridge.enter_cases h.channel other with
            hnothing | ⟨made, hmade, hstage, ⟨entered, -, henter⟩ | ⟨-, henter⟩⟩
          · rwa [hnothing] at hget
          · rw [henter, Bridge.get?_setStage] at hget
            split at hget
            · -- a call that has not entered has not been executed
              rename_i hj
              rw [hj, hmade] at hget
              cases hget
              have hfate := (hchronicle.accounts.calls other made hmade).2.2
              rw [Fate, hstage] at hfate
              exact absurd (hchronicle.requested_of_finished hfinished) hfate
            · exact hget
          · rw [henter] at hget
            exact get?_setStage_awaiting (by simp) hget hawaiting
      | giveUp other =>
          change (h.bridge.giveUp other).calls.get? j = _ at hget
          rcases h.bridge.giveUp_cases other with hsame | ⟨made, -, -, hgone⟩
          · rwa [hsame] at hget
          · rw [hgone] at hget
            exact get?_setStage_awaiting (by simp) hget hawaiting
      | collect other =>
          change (h.bridge.collect other).calls.get? j = _ at hget
          rcases h.bridge.collect_cases other with hsame | ⟨made, result, -, -, hcollected⟩
          · rwa [hsame] at hget
          · rw [hcollected] at hget
            exact get?_setStage_awaiting (by simp) hget hawaiting
      | work => exact absurd rfl hwork
      | takeJob | takeToken | disconnect | elapse | wakeTimer | cancelTimer | begin | reply
      | giveUpOperation | deliver | retire | offer | signal | discard | tearDown | stop
      | conclude | drop | cloneBridge | dropBridge => cases he

theorem Prompt.react {g : Guest σ} {h : Host σ} {past : History} (hprompt : Prompt h past)
    (hchronicle : Chronicle g h past) (e : Event) : Prompt (Host.react g h e) (record past h e) := by
  by_cases hwork : e = .work
  · subst hwork
    exact hprompt.works hchronicle (Host.works g h)
  intro j call result hget hawaiting hin
  have hfinished : (call.request, result) ∈ past.finished := by
    rcases List.mem_append.1 hin with hin | hin
    · exact hin
    · rw [finishes_eq_nil h hwork] at hin
      cases hin
  have hcall := hchronicle.get?_of_awaiting hwork hget hawaiting hfinished
  have hanswering := hprompt j call result hcall hawaiting hfinished
  rw [interpreter_react_of_busy g ?_ hwork]
  · exact hanswering
  · intro hselecting
    rw [hselecting] at hanswering
    cases hanswering

theorem prompt_fresh (capacity : Nat) (guest : σ) : Prompt (fresh capacity guest) .empty :=
  fun _ _ _ hget => nomatch hget

theorem Prompt.run {g : Guest σ} {events : List Event} :
    ∀ {h : Host σ} {past : History}, Prompt h past → Chronicle g h past →
      Prompt (Host.run g h events) (history g h past events) := by
  induction events with
  | nil => exact fun hprompt _ => hprompt
  | cons e events ih =>
      exact fun hprompt hchronicle => ih (hprompt.react hchronicle e) (hchronicle.react e)

/-! ## What becomes of a result -/

/-- An execution finishes once. -/
theorem Chronicle.result_unique {g : Guest σ} {h : Host σ} {past : History}
    (hchronicle : Chronicle g h past) {request : Request} {result other : Result}
    (hin : (request, result) ∈ past.finished) (hother : (request, other) ∈ past.finished) :
    result = other := by
  have hprefix : past.finished.map (·.1) <+: past.begun := by
    rcases hchronicle.begun_cases with hall | ⟨_, _, _, -, hall⟩
    · exact hall ▸ List.prefix_rfl
    · exact hall ▸ List.prefix_append _ _
  have hnodup : (past.finished.map (·.1)).Nodup :=
    hprefix.sublist.nodup (List.Nodup.of_map _ hchronicle.nodup_begun)
  exact (Prod.mk.inj (List.inj_on_of_nodup_map hnodup hin hother rfl)).2

/-- The result of an execution has been sent to its call or is about to be, unless the caller has gone
on without it. -/
theorem Prompt.reaches {g : Guest σ} {h : Host σ} {past : History} (hprompt : Prompt h past)
    (hchronicle : Chronicle g h past) {request : Request} {result : Result}
    (hin : (request, result) ∈ past.finished) :
    ∃ call, h.bridge.calls.get? request.id = some call ∧ call.request = request ∧
      (call.stage = .answered result ∨ call.stage = .ended (.ok result) ∨
        call.stage = .ended (.error (Bridge.timeout request)) ∨
        call.stage = .awaiting ∧ answering? h.interpreter = some (request, result)) := by
  have hrequested := hchronicle.requested_of_finished hin
  obtain ⟨call, hget, rfl⟩ := hchronicle.accounts.requested request hrequested
  refine ⟨call, hget, rfl, ?_⟩
  have hfate := (hchronicle.accounts.calls _ call hget).2.2
  rw [Fate] at hfate
  cases hstage : call.stage with
  | entering =>
      rw [hstage] at hfate
      exact absurd hrequested hfate
  | awaiting => exact .inr (.inr (.inr ⟨rfl, hprompt _ call result hget hstage hin⟩))
  | answered sent =>
      rw [hstage] at hfate
      exact .inl (congrArg _ (hchronicle.result_unique hfate.2 hin))
  | ended how =>
      rw [hstage] at hfate
      cases how with
      | ok sent => exact .inr (.inl (congrArg _ (congrArg _ (hchronicle.result_unique hfate.2 hin))))
      | error fault =>
          rcases hfate with ⟨-, habsent⟩ | rfl
          · exact absurd hrequested habsent
          · exact .inr (.inr (.inl rfl))

end ScriptHost.Host
