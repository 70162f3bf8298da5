import ScriptHost.Proofs.Host.Executions

/-!
# What is in flight

The difference between submissions and completions is meant to tell how many submissions are in
flight: waiting to enter the channel, waiting inside, or at work.  Each submission is counted as soon
as it is made, but only the interpreter counts completions.  A call that ends before its job has
entered, because its time is over or the interpreter has left, is thus counted once and for all: it
is lost, and the gauge shows it forever.

`Metered` is the invariant of the two counters.  Together with the chronicle of a run it gives the
exact value of the gauge: what is in flight and what is lost.
-/

namespace ScriptHost

open Guest (Request)
open Submission (Accounts Bridge Call Channel Fate History Job Result Stage)

namespace Submission

/-- Whether the job of a call waits to enter. -/
def Call.isEntering (call : Call) : Bool :=
  match call.stage with
  | .entering => true
  | _ => false

/-- Whether a call has ended without its job having entered. -/
def Call.isLost (past : History) (call : Call) : Bool :=
  call.isEnded && decide (call.request ∉ past.requested)

/-- The requests that wait inside a channel. -/
def Channel.requests (c : Channel) : List Request := c.jobs.filterMap Job.request?

/-- How many calls wait to enter. -/
def Bridge.entering (b : Bridge) : Nat := b.calls.values.countP Call.isEntering

/-- How many calls are lost. -/
def Bridge.lost (b : Bridge) (past : History) : Nat := b.calls.values.countP (Call.isLost past)

/-! ## Where the calls are -/

/-- Three tests of which each element satisfies exactly one. -/
theorem countP_three {α : Type} {p q r : α → Bool} :
    ∀ {l : List α}, (∀ a ∈ l, (p a).toNat + (q a).toNat + (r a).toNat = 1) →
      l.countP p + l.countP q + l.countP r = l.length
  | [], _ => rfl
  | a :: l, h => by
      have hhead := h a List.mem_cons_self
      have htail := countP_three fun b hb => h b (List.mem_cons_of_mem a hb)
      simp only [List.countP_cons, List.length_cons]
      cases hp : p a <;> cases hq : q a <;> cases hr : r a <;> simp [hp, hq, hr] at hhead ⊢ <;>
        omega

/-- The job of a call waits to enter, or has entered, or never will. -/
theorem Fate.place {past : History} {call : Call} (h : Fate past call) :
    call.isEntering.toNat + (decide (call.request ∈ past.requested)).toNat +
      (call.isLost past).toNat = 1 := by
  obtain ⟨request, since, stage⟩ := call
  cases stage with
  | entering =>
      have hout : request ∉ past.requested := h
      simp [Call.isEntering, Call.isLost, Call.isEnded, hout]
  | awaiting =>
      have hin : request ∈ past.requested := h
      simp [Call.isEntering, Call.isLost, Call.isEnded, hin]
  | answered result =>
      have hin : request ∈ past.requested := h.1
      simp [Call.isEntering, Call.isLost, Call.isEnded, hin]
  | ended how =>
      by_cases hin : request ∈ past.requested
      · simp [Call.isEntering, Call.isLost, Call.isEnded, hin]
      · simp [Call.isEntering, Call.isLost, Call.isEnded, hin]

namespace Accounts

variable {b : Bridge} {past : History}

/-- As many calls have entered as there are requests that have. -/
theorem countP_requested (h : Accounts b past) :
    b.calls.values.countP (fun call => decide (call.request ∈ past.requested)) =
      past.requested.length := by
  have hcount := b.calls.countP_values_eq_length
    (fun call => decide (call.request ∈ past.requested)) h.distinct fun id => ?_
  · rw [hcount, List.length_map]
  · simp only [List.mem_map, decide_eq_true_eq]
    constructor
    · rintro ⟨request, hin, rfl⟩
      obtain ⟨call, hget, rfl⟩ := h.requested request hin
      exact ⟨call, hget, hin⟩
    · rintro ⟨call, hget, hin⟩
      exact ⟨call.request, hin, (h.calls id call hget).1⟩

theorem size_eq (h : Accounts b past) :
    b.calls.size = b.entering + past.requested.length + b.lost past := by
  rw [← h.countP_requested, ← Table.countP_values_true, List.countP_true]
  refine (countP_three fun call hcall => ?_).symm
  obtain ⟨⟨id, _⟩, hmem, rfl⟩ := List.mem_map.1 hcall
  exact (h.calls id _ ((Table.get?_eq_some_iff _ _ _).2 hmem)).2.2.place

end Accounts

/-! ## The counters -/

/-- Nothing is submitted and nothing is counted as completed from one bridge to the other. -/
structure Bridge.SameTraffic (b b' : Bridge) : Prop where
  size : b'.calls.size = b.calls.size
  submitted : b'.stats.submitted = b.stats.submitted
  completed : b'.stats.completed = b.stats.completed

namespace Bridge

variable (b : Bridge)

theorem SameTraffic.refl : b.SameTraffic b := ⟨rfl, rfl, rfl⟩

theorem sameTraffic_setStage (id : Nat) (stage : Stage) : b.SameTraffic (b.setStage id stage) :=
  ⟨Table.size_modify _ _ _, rfl, rfl⟩

theorem sameTraffic_enter (channel : Channel) (id : Nat) :
    b.SameTraffic (b.enter channel id).1 := by
  rcases b.enter_cases channel id with hsame | ⟨call, -, -, ⟨entered, -, henter⟩ | ⟨-, henter⟩⟩
  · rw [hsame]
    exact .refl b
  · rw [henter]
    exact b.sameTraffic_setStage id _
  · rw [henter]
    exact b.sameTraffic_setStage id _

theorem sameTraffic_giveUp (id : Nat) : b.SameTraffic (b.giveUp id) := by
  rcases b.giveUp_cases id with hsame | ⟨call, -, -, hgone⟩
  · rw [hsame]
    exact .refl b
  · rw [hgone]
    exact ⟨(b.sameTraffic_setStage id _).size, rfl, rfl⟩

theorem sameTraffic_answer (id : Nat) (result : Result) : b.SameTraffic (b.answer id result) := by
  rcases b.answer_cases id result with hsame | ⟨call, -, -, hanswered⟩
  · rw [hsame]
    exact .refl b
  · rw [hanswered]
    exact b.sameTraffic_setStage id _

theorem sameTraffic_collect (id : Nat) : b.SameTraffic (b.collect id) := by
  rcases b.collect_cases id with hsame | ⟨call, result, -, -, hcollected⟩
  · rw [hsame]
    exact .refl b
  · rw [hcollected]
    exact b.sameTraffic_setStage id _

end Bridge
end Submission

/-! ## The meter of a host -/

namespace Interpreter

variable {σ : Type}

/-- How many executions are at work.  One that has ended is until it is counted. -/
def underWay : Interpreter σ → Nat
  | .executing .. | .executed .. => 1
  | _ => 0

/-- How many executions have ended and are not counted. -/
def uncounted : Interpreter σ → Nat
  | .executed .. => 1
  | _ => 0

end Interpreter

namespace Host

variable {σ : Type} {g : Guest σ} {h h' : Host σ} {past : History}

/-- The counters of submissions and completions agree with what has happened. -/
structure Metered (h : Host σ) (past : History) : Prop where
  size : h.bridge.calls.size = past.submitted.length
  submitted : h.bridge.stats.submitted = UInt64.ofNat past.submitted.length
  completed : ∃ n, h.bridge.stats.completed = UInt64.ofNat n ∧
    n + h.interpreter.uncounted = past.finished.length

theorem metered_fresh (capacity : Nat) (guest : σ) : Metered (fresh capacity guest) .empty where
  size := rfl
  submitted := rfl
  completed := ⟨0, rfl, rfl⟩

/-- Nothing that matters has happened. -/
theorem Metered.same (hm : Metered h past) (hbridge : h.bridge.SameTraffic h'.bridge)
    (hinterpreter : h'.interpreter.uncounted = h.interpreter.uncounted) {later : History}
    (hsubmitted : later.submitted = past.submitted) (hfinished : later.finished = past.finished) :
    Metered h' later where
  size := by rw [hbridge.size, hm.size, hsubmitted]
  submitted := by rw [hbridge.submitted, hm.submitted, hsubmitted]
  completed := by
    obtain ⟨n, hcompleted, hn⟩ := hm.completed
    exact ⟨n, by rw [hbridge.completed, hcompleted], by rw [hinterpreter, hn, hfinished]⟩

theorem Metered.submit (hm : Metered h past) (ha : Accounts h.bridge past)
    (source chunk : String) (timeoutMillis : Nat) :
    Metered (h.submit false source chunk timeoutMillis).2
      (record past h (.submit false source chunk timeoutMillis)) := by
  have hlength : (record past h (.submit false source chunk timeoutMillis)).submitted.length =
      past.submitted.length + 1 := List.length_append
  have hsize : (h.bridge.submit false h.now source chunk timeoutMillis).2.calls.size =
      h.bridge.calls.size + 1 := Table.size_insert _ _ ha.get?_nextId
  refine ⟨?_, ?_, ?_⟩
  · rw [hlength, ← hm.size]
    exact hsize
  · rw [hlength, UInt64.ofNat_add, ← hm.submitted]
    rfl
  · obtain ⟨n, hcompleted, hn⟩ := hm.completed
    exact ⟨n, hcompleted, by rw [record, finishes_eq_nil h (by simp), List.append_nil]; exact hn⟩

/-- What the interpreter finishes is counted in its next step. -/
theorem Works.metered {finished : List (Request × Result)} (hworks : Works g h finished h')
    (hm : Metered h past) {later : History} (hsubmitted : later.submitted = past.submitted)
    (hfinished : later.finished = past.finished ++ finished) : Metered h' later := by
  have hnone (heq : finished = []) : later.finished = past.finished := by
    rw [hfinished, heq, List.append_nil]
  cases hworks with
  | finishes hinterpreter hadvance =>
      obtain ⟨n, hcompleted, hn⟩ := hm.completed
      refine ⟨hsubmitted ▸ hm.size, hsubmitted ▸ hm.submitted, n, hcompleted, ?_⟩
      rw [hinterpreter] at hn
      rw [hfinished, List.length_append, ← hn]
      rfl
  | completes hinterpreter =>
      obtain ⟨n, hcompleted, hn⟩ := hm.completed
      refine ⟨hsubmitted ▸ hm.size, hsubmitted ▸ hm.submitted, n + 1, ?_, ?_⟩
      · rw [UInt64.ofNat_add, ← hcompleted]
        rfl
      · rw [hinterpreter] at hn
        rw [hnone rfl]
        exact hn
  | waits => exact hm.same (.refl _) rfl hsubmitted (hnone rfl)
  | answers hinterpreter =>
      refine hm.same (h.bridge.sameTraffic_answer _ _) ?_ hsubmitted (hnone rfl)
      exact (congrArg Interpreter.uncounted hinterpreter).symm
  | executes hinterpreter | succeeds hinterpreter | fails hinterpreter | drains hinterpreter
  | selects hinterpreter | invokes hinterpreter | goes_on hinterpreter
  | crashes message hinterpreter | returns ending hinterpreter =>
      refine hm.same ?_ ?_ hsubmitted (hnone rfl)
      · exact ⟨rfl, rfl, rfl⟩
      · exact (congrArg Interpreter.uncounted hinterpreter).symm

/-- Only its own work makes the interpreter leave something uncounted. -/
theorem uncounted_react (g : Guest σ) (h : Host σ) {e : Event} (he : e ≠ .work) :
    (react g h e).interpreter.uncounted = h.interpreter.uncounted := by
  rcases interpreter_react g h e with rfl | rfl | hsame | ⟨hselecting, hnext | hnext⟩
  · exact absurd rfl he
  · rcases takeJob_cases g h with ⟨-, hsame⟩ | ⟨job, hselecting, -, -, -, hnext⟩
    · rw [react, hsame]
    · rw [react, hnext, hselecting]
      cases job <;> rfl
  · rw [hsame]
  · rw [hnext, hselecting]
    rfl
  · rw [hnext, hselecting]
    rfl

theorem Metered.react (hm : Metered h past) (hc : Chronicle g h past) (e : Event) :
    Metered (Host.react g h e) (record past h e) := by
  have hsame {b' : Bridge} (hbridge : h.bridge.SameTraffic b') (he : e ≠ .work)
      (hsubmits : h.submits e = []) (heq : (Host.react g h e).bridge = b') :
      Metered (Host.react g h e) (record past h e) := by
    refine hm.same (heq ▸ hbridge) (uncounted_react g h he) ?_ ?_
    · rw [record, hsubmits, List.append_nil]
    · rw [record, finishes_eq_nil h he, List.append_nil]
  cases e with
  | submit onInterpreter source chunk timeoutMillis =>
      cases onInterpreter with
      | true => exact hsame (.refl _) (by simp) rfl rfl
      | false => exact hm.submit hc.accounts source chunk timeoutMillis
  | enter call => exact hsame (h.bridge.sameTraffic_enter h.channel call) (by simp) rfl rfl
  | giveUp call => exact hsame (h.bridge.sameTraffic_giveUp call) (by simp) rfl rfl
  | collect call => exact hsame (h.bridge.sameTraffic_collect call) (by simp) rfl rfl
  | work => exact (works g h).metered hm (List.append_nil _) rfl
  | takeJob | takeToken | disconnect | elapse | wakeTimer | cancelTimer | begin | reply
  | giveUpOperation | deliver | retire | offer | signal | discard | tearDown | stop | conclude
  | drop | cloneBridge | dropBridge =>
      exact hsame (.refl _) (by simp) rfl (bridge_react g h rfl)

theorem Metered.run {events : List Event} :
    ∀ {h : Host σ} {past : History}, Metered h past → Chronicle g h past →
      Metered (Host.run g h events) (history g h past events) := by
  induction events with
  | nil => exact fun hm _ => hm
  | cons e events ih => exact fun hm hc => ih (hm.react hc e) (hc.react e)

/-! ## The gauge -/

/-- What is in flight: the submissions that wait to enter, that wait inside, and that are at work. -/
def load (h : Host σ) : Nat :=
  h.bridge.entering + h.channel.requests.length + h.interpreter.underWay

/-- What has begun has finished or is at work. -/
theorem Runs.length_begun {interpreter : Interpreter σ} (hruns : Runs g past interpreter) :
    past.begun.length + interpreter.uncounted = past.finished.length + interpreter.underWay := by
  cases interpreter with
  | executing request since code =>
      have hbegun := congrArg List.length hruns.1
      simpa [Interpreter.uncounted, Interpreter.underWay] using hbegun
  | executed request result | completed request result | counted request result =>
      have hbegun := congrArg List.length hruns.1
      simpa [Interpreter.uncounted, Interpreter.underWay] using hbegun
  | selecting | draining | passing | invoking | stopped | crashed =>
      have hbegun := congrArg List.length hruns
      simpa [Interpreter.uncounted, Interpreter.underWay] using hbegun

/-- Every submission has been completed, or is in flight, or is lost. -/
theorem Metered.balance (hm : Metered h past) (hc : Chronicle g h past) :
    ∃ n, h.bridge.stats.completed = UInt64.ofNat n ∧
      past.submitted.length = n + (h.load + h.bridge.lost past) := by
  obtain ⟨n, hcompleted, hn⟩ := hm.completed
  refine ⟨n, hcompleted, ?_⟩
  have hcalls := hc.accounts.size_eq
  have hentered : past.requested.length = past.begun.length + h.channel.requests.length := by
    rw [History.requested, hc.passed, List.filterMap_append, List.length_append]
    rfl
  have hbegun := hc.runs.length_begun
  have hsize := hm.size
  simp only [load]
  omega

theorem lost_eq_zero_iff (b : Bridge) (past : History) :
    b.lost past = 0 ↔ ∀ id call, b.calls.get? id = some call → call.isEnded = true →
      call.request ∈ past.requested := by
  rw [← Nat.not_lt.trans Nat.le_zero, Bridge.lost, Table.countP_values_pos_iff]
  constructor
  · intro hnone id call hget hended
    refine Decidable.not_not.1 fun hout => hnone ⟨id, call, hget, ?_⟩
    simp [Call.isLost, hended, hout]
  · rintro hall ⟨id, call, hget, hlost⟩
    simp only [Call.isLost, Bool.and_eq_true, decide_eq_true_eq] at hlost
    exact hlost.2 (hall id call hget hlost.1)

/-- What is lost stays so. -/
theorem Chronicle.lost_le (hc : Chronicle g h past) (later : List Event) :
    h.bridge.lost past ≤ (Host.run g h later).bridge.lost (history g h past later) := by
  refine Table.countP_values_le fun id call hget hlost => ?_
  simp only [Call.isLost, Bool.and_eq_true, decide_eq_true_eq] at hlost ⊢
  have hid := (hc.accounts.calls id call hget).1
  have hbarred : Barred h past call := ⟨hid.symm ▸ hget, hlost.1, hlost.2⟩
  have hafter : Barred (Host.run g h later) (history g h past later) call := hc.barred_run hbarred
  exact ⟨hid ▸ hafter.known, hafter.ended, hafter.absent⟩

/-- **The gauge shows what is in flight and what is lost**, in every order in which things can happen
to a host: the counters differ by the submissions that wait to enter the channel, wait inside or are
at work, and besides by those whose calls have ended before their jobs had entered.  Nothing is lost
exactly if every call that has ended had entered.  What is lost once stays so, whatever happens
later. -/
theorem inFlight_exceeds_by_lost (g : Guest σ) (capacity : Nat) (guest : σ)
    (events : List Event) :
    let start := fresh capacity guest
    let h := Host.run g start events
    let past := history g start .empty events
    h.bridge.stats.submitted - h.bridge.stats.completed =
      UInt64.ofNat (h.load + h.bridge.lost past) ∧
    (past.submitted.length < UInt64.size →
      h.bridge.stats.inFlight = h.load + h.bridge.lost past) ∧
    (h.bridge.lost past = 0 ↔ ∀ id call, h.bridge.calls.get? id = some call →
      call.isEnded = true → call.request ∈ past.requested) ∧
    ∀ later, h.bridge.lost past ≤ (Host.run g h later).bridge.lost (history g h past later) := by
  intro start h past
  have hc : Chronicle g h past := (chronicle_fresh g capacity guest).run
  have hm : Metered h past := (metered_fresh capacity guest).run (chronicle_fresh g capacity guest)
  obtain ⟨n, hcompleted, hbalance⟩ := hm.balance hc
  have hsubmitted := hm.submitted
  refine ⟨?_, fun hfits => ?_, lost_eq_zero_iff _ _, fun later => hc.lost_le later⟩
  · rw [hsubmitted, hcompleted, hbalance, UInt64.ofNat_add, UInt64.add_comm, UInt64.add_sub_cancel]
  · have hless : n < UInt64.size := by omega
    rw [Submission.Stats.inFlight, hsubmitted, hcompleted, UInt64.toNat_ofNat_of_lt' hfits,
      UInt64.toNat_ofNat_of_lt' hless]
    omega

/-- A guest that executes everything at once. -/
def prompt : Guest Unit where
  execute _ := .return_ .null
  invoke _ := .return_ .skipped
  releaseAll := id

/-- There is room for one job.  The second call runs out of time while the first job is inside, the
first one is executed, and a third call comes after the interpreter has stopped. -/
def crowd : List Event :=
  [.submit false "return" "=submit" 50, .enter 1, .submit false "return" "=submit" 50, .enter 2,
    .elapse 50, .giveUp 2, .takeJob, .work, .work, .work, .work, .collect 1, .work, .work, .stop,
    .takeJob, .submit false "return" "=submit" 50, .enter 3]

/-- Before the second call has ended everything that the gauge shows is in flight. -/
theorem crowd_in_flight :
    (history prompt (fresh 1 ()) .empty (crowd.take 4)).submitted.length < UInt64.size ∧
      (Host.run prompt (fresh 1 ()) (crowd.take 4)).bridge.stats.inFlight = 2 := by
  have hfits : (history prompt (fresh 1 ()) .empty (crowd.take 4)).submitted.length <
      UInt64.size := by decide
  have hgauge := (inFlight_exceeds_by_lost prompt 1 () (crowd.take 4)).2.1 hfits
  exact ⟨hfits, hgauge.trans (by decide)⟩

/-- In the end all calls have ended, the channel is empty and the interpreter has stopped, and the
gauge still shows two submissions. -/
theorem gauge_stays_up :
    let h := Host.run prompt (fresh 1 ()) crowd
    h.load = 0 ∧ h.bridge.calls.values.all Call.isEnded = true ∧ h.isRunning = false ∧
      h.bridge.stats.inFlight = 2 := by
  decide

end Host
end ScriptHost
