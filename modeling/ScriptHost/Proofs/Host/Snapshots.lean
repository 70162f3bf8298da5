import ScriptHost.Proofs.Host.InFlight
import ScriptHost.Proofs.Submission.Increments

/-!
# Snapshots of a host's counters

Submitting, giving up, and the interpreter after an execution each increase a counter in a step of
their own (`increments`).  Whatever happens to a host, the increments come in a lawful order
(`Tallied`), and so its counters are in order at every moment.  A snapshot is not of one moment: it
loads the submissions before the completions and the completions before the failures, so that what is
counted between two loads can put it out of order.
-/

namespace ScriptHost

open Guest (Request)
open Submission (Accounts Bridge Counter History Increment Result Stats before seen seen_completed seen_failed
  seen_timedOut)
open Submission.Increment (Due Lawful counted counted_append lawful_append lawful_singleton
  mem_counted)

namespace Interpreter

variable {σ : Type}

/-- The call whose execution has ended and is not counted. -/
def uncountedCalls : Interpreter σ → List Nat
  | .executed request _ => [request.id]
  | _ => []

end Interpreter

namespace Host

variable {σ : Type} {g : Guest σ} {h : Host σ} {past : History} {made : List Increment}

/-- What an event counts. -/
def increments (h : Host σ) : Event → List Increment
  | .submit false _ _ _ => [⟨.submitted, h.bridge.nextId⟩]
  | .giveUp call =>
      match h.bridge.stage? call with
      | some .entering | some .awaiting => [⟨.timedOut, call⟩]
      | _ => []
  | .work =>
      match h.interpreter with
      | .executed request _ => [⟨.completed, request.id⟩]
      | .completed request result => if result.success then [] else [⟨.failed, request.id⟩]
      | _ => []
  | _ => []

/-- What a run counts. -/
def log (g : Guest σ) : Host σ → List Event → List Increment
  | _, [] => []
  | h, e :: events => h.increments e ++ log g (react g h e) events

theorem log_append (g : Guest σ) (events later : List Event) :
    ∀ h : Host σ, log g h (events ++ later) = log g h events ++ log g (run g h events) later := by
  induction events with
  | nil => exact fun _ => rfl
  | cons e events ih =>
      intro h
      rw [List.cons_append, log, ih, log, List.append_assoc]
      rfl

/-! ## One event -/

/-- A caller gives up, or there is none that waits. -/
theorem giveUp_cases (h : Host σ) (call : Nat) :
    h.increments (.giveUp call) = [] ∧ h.bridge.giveUp call = h.bridge ∨
      ∃ own, h.bridge.calls.get? call = some own ∧ own.isEnded = false ∧
        h.increments (.giveUp call) = [⟨.timedOut, call⟩] ∧
        (h.bridge.giveUp call).stats = h.bridge.stats.count .timedOut ∧
        (h.bridge.giveUp call).calls.get? call =
          some { own with stage := .ended (.error (Bridge.timeout own.request)) } := by
  cases hget : h.bridge.calls.get? call with
  | none => exact .inl (by simp [increments, Bridge.stage?, Bridge.giveUp, hget])
  | some own =>
      obtain ⟨request, since, stage⟩ := own
      cases stage with
      | entering | awaiting =>
          refine .inr ⟨_, rfl, rfl, ?_, ?_, ?_⟩
          · simp [increments, Bridge.stage?, hget]
          · simp [Bridge.giveUp, hget]
          · simp only [Bridge.giveUp, hget]
            exact (Bridge.get?_setStage _ _ _ _).trans (by rw [if_pos rfl, hget]; rfl)
      | answered | ended => exact .inl (by simp [increments, Bridge.stage?, Bridge.giveUp, hget])

/-- What an event can count. -/
inductive Counts (h : Host σ) : Event → List Increment → Prop where
  | nothing (e : Event) : Counts h e []
  | submission (source chunk : String) (timeoutMillis : Nat) :
      Counts h (.submit false source chunk timeoutMillis) [⟨.submitted, h.bridge.nextId⟩]
  | timeout {call : Nat} {own : Submission.Call} (hget : h.bridge.calls.get? call = some own)
      (hwaits : own.isEnded = false) : Counts h (.giveUp call) [⟨.timedOut, call⟩]
  | completion {request : Request} {result : Result}
      (hinterpreter : h.interpreter = .executed request result) :
      Counts h .work [⟨.completed, request.id⟩]
  | failure {request : Request} {result : Result}
      (hinterpreter : h.interpreter = .completed request result) :
      Counts h .work [⟨.failed, request.id⟩]

theorem counts (h : Host σ) (e : Event) : Counts h e (h.increments e) := by
  cases e with
  | submit onInterpreter source chunk timeoutMillis =>
      cases onInterpreter with
      | true => exact .nothing _
      | false => exact .submission source chunk timeoutMillis
  | giveUp call =>
      rcases h.giveUp_cases call with ⟨hnone, -⟩ | ⟨own, hget, hwaits, hcounts, -, -⟩
      · rw [hnone]
        exact .nothing _
      · rw [hcounts]
        exact .timeout hget hwaits
  | work =>
      cases hinterpreter : h.interpreter with
      | executed request result =>
          simp only [increments, hinterpreter]
          exact .completion hinterpreter
      | completed request result =>
          simp only [increments, hinterpreter]
          split
          · exact .nothing _
          · exact .failure hinterpreter
      | selecting | executing | counted | draining | passing | invoking | stopped | crashed =>
          simp only [increments, hinterpreter]
          exact .nothing _
  | enter | collect | takeJob | takeToken | disconnect | elapse | wakeTimer | cancelTimer | begin
  | reply | giveUpOperation | deliver | retire | offer | signal | discard | tearDown | stop
  | conclude | drop | cloneBridge | dropBridge => exact .nothing _

theorem stats_work (g : Guest σ) (h : Host σ) :
    ((h.work? g).getD h).bridge.stats =
      (h.increments .work).foldl (fun s i => s.count i.counter) h.bridge.stats := by
  cases hinterpreter : h.interpreter with
  | completed request result =>
      cases hsuccess : result.success <;> simp [work?, increments, hinterpreter, hsuccess, count]
  | counted request result =>
      simp only [work?, increments, hinterpreter]
      show (h.bridge.answer request.id result).stats = h.bridge.stats
      rcases h.bridge.answer_cases request.id result with hsame | ⟨call, -, -, hanswered⟩
      · rw [hsame]
      · rw [hanswered]
        rfl
  | selecting | executed | draining | stopped | crashed =>
      simp only [work?, increments, hinterpreter]
      rfl
  | executing | invoking =>
      simp only [work?, increments, hinterpreter]
      split <;> rfl
  | passing rest =>
      simp only [work?, increments, hinterpreter]
      cases rest <;> rfl

/-- The counters change as an event says. -/
theorem stats_react (g : Guest σ) (h : Host σ) (e : Event) :
    (react g h e).bridge.stats =
      (h.increments e).foldl (fun s i => s.count i.counter) h.bridge.stats := by
  cases e with
  | submit onInterpreter => cases onInterpreter <;> rfl
  | giveUp call =>
      show (h.bridge.giveUp call).stats = _
      rcases h.giveUp_cases call with ⟨hnone, hsame⟩ | ⟨own, -, -, hcounts, hstats, -⟩
      · rw [hnone, hsame]
        rfl
      · rw [hcounts, hstats]
        rfl
  | work => exact stats_work g h
  | enter call =>
      show (h.bridge.enter h.channel call).1.stats = _
      rcases h.bridge.enter_cases h.channel call with
        hsame | ⟨own, -, -, ⟨entered, -, henter⟩ | ⟨-, henter⟩⟩
      · rw [hsame]
        rfl
      · rw [henter]
        rfl
      · rw [henter]
        rfl
  | collect call =>
      show (h.bridge.collect call).stats = _
      rcases h.bridge.collect_cases call with hsame | ⟨own, result, -, -, hcollected⟩
      · rw [hsame]
        rfl
      · rw [hcollected]
        rfl
  | takeJob | takeToken | disconnect | elapse | wakeTimer | cancelTimer | begin | reply
  | giveUpOperation | deliver | retire | offer | signal | discard | tearDown | stop | conclude
  | drop | cloneBridge | dropBridge => rw [bridge_react g h rfl]; rfl

/-- What is submitted is counted, and nothing else is counted as submitted. -/
theorem counted_submits (h : Host σ) (e : Event) :
    counted (h.increments e) .submitted = (h.submits e).map (·.id) := by
  cases e with
  | submit onInterpreter => cases onInterpreter <;> rfl
  | giveUp call =>
      have hcounts := counts h (.giveUp call)
      generalize h.increments (.giveUp call) = new at hcounts
      cases hcounts <;> rfl
  | work =>
      have hcounts := counts h .work
      generalize h.increments .work = new at hcounts
      cases hcounts <;> rfl
  | enter | collect | takeJob | takeToken | disconnect | elapse | wakeTimer | cancelTimer | begin
  | reply | giveUpOperation | deliver | retire | offer | signal | discard | tearDown | stop
  | conclude | drop | cloneBridge | dropBridge => rfl

/-- Only its own work changes what the interpreter has not counted. -/
theorem uncountedCalls_react (g : Guest σ) (h : Host σ) {e : Event} (he : e ≠ .work) :
    (react g h e).interpreter.uncountedCalls = h.interpreter.uncountedCalls := by
  rcases interpreter_react g h e with rfl | rfl | hsame | ⟨hselecting, hnext | hnext⟩
  · exact absurd rfl he
  · rcases takeJob_cases g h with ⟨-, hsame⟩ | ⟨job, hselecting, -, -, -, hnext⟩
    · rw [react, hsame]
    · rw [react, hnext, hselecting]
      cases job <;> rfl
  · rw [hsame]
  · rw [hnext, hselecting]
    rfl
  · rw [hnext, hselecting]
    rfl

/-- What finishes waits to be counted, and what is counted as completed has waited. -/
theorem counted_finishes (g : Guest σ) (h : Host σ) (e : Event) :
    counted (h.increments e) .completed ++ (react g h e).interpreter.uncountedCalls =
      h.interpreter.uncountedCalls ++ (h.finishes e).map (·.1.id) := by
  by_cases he : e = .work
  · subst he
    show counted (h.increments .work) .completed ++
      ((h.work? g).getD h).interpreter.uncountedCalls = _
    cases hinterpreter : h.interpreter with
    | executing request since code =>
        simp only [work?, increments, finishes, hinterpreter]
        rcases code.advance (h.services, h.guest) with ⟨_ | ending | rest, services, guest⟩ <;>
          simp [counted, Interpreter.uncountedCalls, hinterpreter]
    | executed request result =>
        simp [work?, increments, finishes, hinterpreter, Interpreter.uncountedCalls]
    | completed request result =>
        simp only [work?, increments, finishes, hinterpreter]
        cases result.success <;> rfl
    | passing rest =>
        cases rest <;> simp [work?, increments, finishes, hinterpreter, counted,
          Interpreter.uncountedCalls]
    | invoking code rest counts =>
        simp only [work?, increments, finishes, hinterpreter]
        split <;> simp_all [counted, Interpreter.uncountedCalls, leave]
    | selecting | counted | draining | stopped | crashed =>
        simp [work?, increments, finishes, hinterpreter, Submission.Increment.counted,
          Interpreter.uncountedCalls]
  · rw [uncountedCalls_react g h he, finishes_eq_nil h he, List.map_nil, List.append_nil]
    refine List.append_left_eq_self.2 ?_
    have hcounts := counts h e
    generalize h.increments e = new at hcounts
    cases hcounts with
    | nothing | submission | timeout => rfl
    | completion | failure => exact absurd rfl he

theorem executed_of_work {request : Request} {result : Result}
    (hafter : ((h.work? g).getD h).interpreter = .completed request result) :
    h.interpreter = .executed request result := by
  cases hinterpreter : h.interpreter with
  | executing | invoking =>
      simp only [work?, hinterpreter] at hafter
      split at hafter <;> simp_all [leave]
  | passing rest => cases rest <;> simp [work?, hinterpreter] at hafter
  | selecting | executed | completed | counted | draining | stopped | crashed => simp_all [work?]

theorem completed_of_react {e : Event} (he : e ≠ .work) {request : Request} {result : Result}
    (hafter : (react g h e).interpreter = .completed request result) :
    h.interpreter = .completed request result := by
  rcases interpreter_react g h e with rfl | rfl | hsame | ⟨-, hnext | hnext⟩
  · exact absurd rfl he
  · rcases takeJob_cases g h with ⟨-, hsame⟩ | ⟨job, -, -, -, -, hnext⟩
    · rwa [react, hsame] at hafter
    · rw [react, hnext] at hafter
      cases job <;> cases hafter
  · exact hsame ▸ hafter
  · rw [hnext] at hafter
    cases hafter
  · rw [hnext] at hafter
    cases hafter

/-! ## The log of a run -/

/-- Every call has been submitted. -/
theorem Metered.mem_submitted (hm : Metered h past) (ha : Accounts h.bridge past) {call : Nat}
    {own : Submission.Call} (hget : h.bridge.calls.get? call = some own) :
    call ∈ past.submitted.map (·.id) := by
  have hkey {id : Nat} (hid : h.bridge.calls.get? id ≠ none) : id ∈ h.bridge.calls.keys :=
    Decidable.not_not.1 fun hout => hid ((Table.get?_eq_none_iff _ _).2 hout)
  -- There are as many calls as submissions, and each submission has a call of its own.
  have hall : (past.submitted.map (·.id)).Subperm h.bridge.calls.keys := by
    refine List.subperm_of_subset ha.numbered fun id hid => hkey ?_
    obtain ⟨request, hin, rfl⟩ := List.mem_map.1 hid
    obtain ⟨known, hknown, -⟩ := ha.submitted request hin
    simp [hknown]
  have hlength : h.bridge.calls.keys.length ≤ (past.submitted.map (·.id)).length := by
    rw [Table.keys, List.length_map, List.length_map, ← hm.size]
    exact Nat.le_refl _
  exact (hall.perm_of_length_le hlength).mem_iff.2 (hkey (by simp [hget]))

/-- What has been counted agrees with what has happened. -/
structure Tallied (h : Host σ) (past : History) (made : List Increment) : Prop where
  lawful : Lawful [] made
  stats : h.bridge.stats = .ofLog made
  submitted : counted made .submitted = past.submitted.map (·.id)
  completed : counted made .completed ++ h.interpreter.uncountedCalls =
    past.finished.map (·.1.id)
  /-- An execution that has been counted as completed is not counted as failed yet. -/
  unfailed : ∀ request result, h.interpreter = .completed request result →
    ⟨.completed, request.id⟩ ∈ made ∧ ⟨.failed, request.id⟩ ∉ made
  timedOut : ∀ call, ⟨.timedOut, call⟩ ∈ made →
    ∃ own, h.bridge.calls.get? call = some own ∧ own.isEnded = true

theorem tallied_fresh (capacity : Nat) (guest : σ) : Tallied (fresh capacity guest) .empty [] where
  lawful := trivial
  stats := rfl
  submitted := rfl
  completed := rfl
  unfailed _ _ h := by cases h
  timedOut _ h := by cases h

namespace Tallied

variable (hl : Tallied h past made)
include hl

theorem due_submitted (ha : Accounts h.bridge past) :
    Due made ⟨.submitted, h.bridge.nextId⟩ := by
  refine ⟨fun hin => ?_, fun c hc => by cases hc⟩
  rw [← mem_counted, hl.submitted] at hin
  obtain ⟨request, hsubmitted, hid⟩ := List.mem_map.1 hin
  obtain ⟨own, hget, -⟩ := ha.submitted request hsubmitted
  exact ha.id_ne_nextId hget hid

theorem submitted_of_call (hm : Metered h past) (ha : Accounts h.bridge past) {call : Nat}
    {own : Submission.Call} (hget : h.bridge.calls.get? call = some own) :
    ⟨.submitted, call⟩ ∈ made := by
  rw [← mem_counted, hl.submitted]
  exact hm.mem_submitted ha hget

theorem due_timedOut (hm : Metered h past) (ha : Accounts h.bridge past) {call : Nat}
    {own : Submission.Call} (hget : h.bridge.calls.get? call = some own)
    (hwaits : own.isEnded = false) : Due made ⟨.timedOut, call⟩ := by
  refine ⟨fun hin => ?_, fun c hc => ?_⟩
  · obtain ⟨same, hsame, hended⟩ := hl.timedOut call hin
    rw [hget] at hsame
    cases hsame
    rw [hwaits] at hended
    cases hended
  · cases hc
    exact hl.submitted_of_call hm ha hget

theorem due_completed (hm : Metered h past) (hc : Chronicle g h past) {request : Request}
    {result : Result} (hinterpreter : h.interpreter = .executed request result) :
    Due made ⟨.completed, request.id⟩ := by
  have hruns := hc.runs
  rw [hinterpreter] at hruns
  obtain ⟨hbegun, hfinished⟩ := hruns
  have hcompleted := hl.completed
  rw [hinterpreter] at hcompleted
  refine ⟨fun hin => ?_, fun c hcause => ?_⟩
  · -- No execution ends twice.
    have hnodup := hc.nodup_begun
    rw [hbegun, List.map_map] at hnodup
    change (past.finished.map (·.1.id)).Nodup at hnodup
    rw [← hcompleted, List.nodup_append] at hnodup
    exact hnodup.2.2 _ (mem_counted.2 hin) _ (List.mem_singleton_self _) rfl
  · cases hcause
    have hin : request ∈ past.begun := hbegun ▸ List.mem_map.2 ⟨_, hfinished, rfl⟩
    obtain ⟨own, hget, -⟩ := hc.accounts.requested request (hc.requested_of_begun hin)
    exact hl.submitted_of_call hm hc.accounts hget

theorem due_failed {request : Request} {result : Result}
    (hinterpreter : h.interpreter = .completed request result) :
    Due made ⟨.failed, request.id⟩ := by
  obtain ⟨hcompleted, hnot⟩ := hl.unfailed request result hinterpreter
  refine ⟨hnot, fun c hc => ?_⟩
  cases hc
  exact hcompleted

theorem lawful_of_counts (hm : Metered h past) (hc : Chronicle g h past) {e : Event}
    {new : List Increment} (hcounts : Counts h e new) : Lawful made new := by
  cases hcounts with
  | nothing => trivial
  | submission => exact lawful_singleton.2 (hl.due_submitted hc.accounts)
  | timeout hget hwaits => exact lawful_singleton.2 (hl.due_timedOut hm hc.accounts hget hwaits)
  | completion hinterpreter => exact lawful_singleton.2 (hl.due_completed hm hc hinterpreter)
  | failure hinterpreter => exact lawful_singleton.2 (hl.due_failed hinterpreter)

theorem unfailed_react (hm : Metered h past) (hc : Chronicle g h past) (e : Event)
    {request : Request} {result : Result}
    (hafter : (Host.react g h e).interpreter = .completed request result) :
    ⟨.completed, request.id⟩ ∈ made ++ h.increments e ∧
      ⟨.failed, request.id⟩ ∉ made ++ h.increments e := by
  by_cases he : e = .work
  · subst he
    have hexecuted := executed_of_work hafter
    have hnew : h.increments .work = [⟨.completed, request.id⟩] := by
      simp only [increments, hexecuted]
    rw [hnew]
    refine ⟨List.mem_append_right _ (List.mem_singleton_self _), fun hin => ?_⟩
    rcases List.mem_append.1 hin with hin | hin
    · exact (hl.due_completed hm hc hexecuted).1 (hl.lawful.caused.cause _ hin _ rfl)
    · cases List.mem_singleton.1 hin
  · obtain ⟨hcompleted, hnot⟩ := hl.unfailed request result (completed_of_react he hafter)
    refine ⟨List.mem_append_left _ hcompleted, fun hin => ?_⟩
    refine (List.mem_append.1 hin).elim hnot fun hin => ?_
    have hcounts := counts h e
    generalize h.increments e = new at hcounts hin
    cases hcounts with
    | nothing => cases hin
    | submission | timeout => cases List.mem_singleton.1 hin
    | completion | failure => exact he rfl

theorem timedOut_react (hc : Chronicle g h past) (e : Event) {call : Nat}
    (hin : ⟨.timedOut, call⟩ ∈ made ++ h.increments e) :
    ∃ own, (Host.react g h e).bridge.calls.get? call = some own ∧ own.isEnded = true := by
  rcases List.mem_append.1 hin with hin | hin
  · obtain ⟨own, hget, hended⟩ := hl.timedOut call hin
    exact ⟨own, hc.known_react e hget hended, hended⟩
  · have hcounts := counts h e
    generalize hnew : h.increments e = new at hcounts hin
    cases hcounts with
    | nothing => cases hin
    | submission | completion | failure => cases List.mem_singleton.1 hin
    | timeout =>
        cases List.mem_singleton.1 hin
        rcases h.giveUp_cases call with ⟨hnone, -⟩ | ⟨own, -, -, -, -, hget⟩
        · rw [hnone] at hnew
          cases hnew
        · exact ⟨_, hget, rfl⟩

theorem react (hm : Metered h past) (hc : Chronicle g h past) (e : Event) :
    Tallied (Host.react g h e) (record past h e) (made ++ h.increments e) where
  lawful := lawful_append.2 ⟨hl.lawful, hl.lawful_of_counts hm hc (counts h e)⟩
  stats := by rw [stats_react, hl.stats, Stats.ofLog_append]
  submitted := by
    rw [counted_append, hl.submitted, counted_submits, ← List.map_append]
    rfl
  completed := by
    rw [counted_append, List.append_assoc, counted_finishes,
      ← List.append_assoc, hl.completed, ← List.map_append]
    rfl
  unfailed _ _ hafter := hl.unfailed_react hm hc e hafter
  timedOut _ hin := hl.timedOut_react hc e hin

end Tallied

theorem Tallied.run {events : List Event} :
    ∀ {h : Host σ} {past : History} {made : List Increment}, Tallied h past made →
      Metered h past → Chronicle g h past →
        Tallied (Host.run g h events) (history g h past events) (made ++ log g h events) := by
  induction events with
  | nil =>
      intro h past made hl _ _
      rw [log, List.append_nil]
      exact hl
  | cons e events ih =>
      intro h past made hl hm hc
      rw [log, ← List.append_assoc]
      exact ih (hl.react hm hc e) (hm.react hc e) (hc.react e)

/-! ## A snapshot -/

/-- What a run counts before a load is what it counts up to there. -/
theorem seen_log (g : Guest σ) (start : Host σ) (gaps : Counter → List Event) (c : Counter) :
    seen (fun c => log g (Host.run g start (before gaps c)) (gaps c)) c =
      log g start (seen gaps c) := by
  cases c <;> simp [seen, before, Counter.order, log_append, Host.run]

/-- **A snapshot is in order as long as nothing that it loads later runs ahead of what it has loaded
before.**  This is so for every order in which increments can be made, a timeout after the completion
of the same call included: each inequality holds exactly if no more is counted between the two loads
than there was room for at the first.  Whatever happens to a host before and between the loads of a
reader, its increments come in such an order, and the reader finds the counters as they make them. -/
theorem snapshot_in_order_iff (gaps : Counter → List Increment)
    (hlawful : Lawful [] (seen gaps .timedOut))
    (hfits : (counted (seen gaps .timedOut) .submitted).length < UInt64.size) :
    let s := Stats.snapshot fun c => .ofLog (seen gaps c)
    (s.failed ≤ s.completed ↔
      (counted (gaps .failed) .failed).length ≤
        (counted (seen gaps .completed) .completed).length -
          (counted (seen gaps .completed) .failed).length) ∧
    (s.completed ≤ s.submitted ↔
      (counted (gaps .completed) .completed).length ≤
        (counted (gaps .submitted) .submitted).length -
          (counted (gaps .submitted) .completed).length) ∧
    (s.timedOut ≤ s.submitted ↔
      (counted (gaps .completed ++ gaps .failed ++ gaps .timedOut) .timedOut).length ≤
        (counted (gaps .submitted) .submitted).length -
          (counted (gaps .submitted) .timedOut).length) ∧
    ∀ {σ : Type} (g : Guest σ) (capacity : Nat) (guest : σ) (events : Counter → List Event),
      let start := fresh capacity guest
      let logs := fun c => log g (Host.run g start (before events c)) (events c)
      Lawful [] (seen logs .timedOut) ∧
        ∀ c, (Host.run g start (seen events c)).bridge.stats = .ofLog (seen logs c) := by
  refine ⟨?failed, ?completed, ?timedOut, fun g capacity guest events => ?hosts⟩
  case failed => exact Stats.read_snapshot_le_iff (c := .failed) rfl (seen_failed gaps) hlawful hfits
  case completed =>
    exact Stats.read_snapshot_le_iff (c := .completed) rfl (seen_completed gaps) hlawful hfits
  case timedOut =>
    exact Stats.read_snapshot_le_iff (c := .timedOut) rfl (seen_timedOut gaps) hlawful hfits
  case hosts =>
    intro start logs
    have htallied (c : Counter) : Tallied (Host.run g start (seen events c))
        (history g start .empty (seen events c)) (seen logs c) := by
      rw [seen_log]
      exact (tallied_fresh capacity guest).run (metered_fresh capacity guest)
        (chronicle_fresh g capacity guest)
    exact ⟨(htallied .timedOut).lawful, fun c => (htallied c).stats⟩

/-- Before the first load two calls have been submitted; the first one is completed, counted as failed,
and times out in the end, each between two loads. -/
def trailing : Counter → List Increment
  | .submitted => [⟨.submitted, 1⟩, ⟨.submitted, 2⟩]
  | .completed => [⟨.completed, 1⟩]
  | .failed => [⟨.failed, 1⟩]
  | .timedOut => [⟨.timedOut, 1⟩]

/-- What is counted between these loads there was room for. -/
theorem trailing_snapshot_in_order :
    Lawful [] (seen trailing .timedOut) ∧
      (counted (seen trailing .timedOut) .submitted).length < UInt64.size ∧
      (Stats.snapshot fun c => .ofLog (seen trailing c)).InOrder := by
  have hlawful : Lawful [] (seen trailing .timedOut) := by decide
  have hfits : (counted (seen trailing .timedOut) .submitted).length < UInt64.size := by decide
  obtain ⟨hfailed, hcompleted, htimedOut, -⟩ := snapshot_in_order_iff trailing hlawful hfits
  exact ⟨hlawful, hfits, hfailed.2 (by decide), hcompleted.2 (by decide), htimedOut.2 (by decide)⟩

/-- A guest that fails at everything at once. -/
def hopeless : Guest Unit where
  execute _ := .raise "error"
  invoke _ := .return_ .skipped
  releaseAll := id

/-- Nothing has been submitted at the first load.  Before the second one a call is submitted and its
execution is counted as completed; before the third one it is counted as failed, and a second call
goes all this way; before the last one a third call times out. -/
def overtaking : Counter → List Event
  | .submitted => []
  | .completed => [.submit false "error()" "=submit" 1000, .enter 1, .takeJob, .work, .work]
  | .failed =>
      [.work, .work, .work, .work, .submit false "error()" "=submit" 1000, .enter 2, .takeJob, .work,
        .work, .work]
  | .timedOut => [.submit false "error()" "=submit" 50, .elapse 50, .giveUp 3]

/-- A snapshot can show more failures than completions, and more completions and more timeouts than
submissions, though the counters are in order at each of its loads. -/
theorem snapshot_out_of_order :
    let stats := fun c => (Host.run hopeless (fresh 1 ()) (seen overtaking c)).bridge.stats
    let s := Stats.snapshot stats
    (∀ c ∈ Counter.order, (stats c).InOrder) ∧ s = ⟨0, 1, 2, 1⟩ ∧
      ¬ s.failed ≤ s.completed ∧ ¬ s.completed ≤ s.submitted ∧ ¬ s.timedOut ≤ s.submitted := by
  decide

end Host
end ScriptHost
