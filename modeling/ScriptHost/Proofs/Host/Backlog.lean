import ScriptHost.Proofs.Host.Executions
import ScriptHost.Proofs.Host.Registration
import ScriptHost.Proofs.Host.Rest
import ScriptHost.Proofs.Host.Visits

/-!
# The backlog of an execution

When an execution ends, callbacks may wait in the queue.  The result is sent first, and only then does
a pass begin; meanwhile other threads add to the queue and drop entries of it.  What they have not
dropped by then (`spared`) is taken by the pass, and the interpreter takes no job before all of it has
been handed over.  So a caller that has got its result and submits again finds everything done that
was ready when its first execution ended.
-/

namespace ScriptHost.Host

open Desk (State)
open Guest (Request)
open Ready (Callback Queue)
open Submission (History Job Result)

variable {σ : Type}

/-! ## Entries that are dropped -/

/-- Whether other threads drop a callback from the queue. -/
def drops (h : Host σ) (c : Callback) : Event → Bool
  | .cancelTimer id | .discard id => c.target = .timer id
  | .tearDown => true
  | .conclude => !h.isRunning
  | .drop =>
      h.held && match c.target with
        | .timer id => h.services.timers.isLive id
        | .completion _ => false
  | _ => false

/-- Whether a pass begins. -/
def beginsPass (h : Host σ) : Event → Bool
  | .work =>
      match h.interpreter with
      | .draining => true
      | _ => false
  | _ => false

/-- Of callbacks that wait in the queue, those that nobody drops before a pass takes them. -/
def spared (g : Guest σ) : Host σ → List Callback → List Event → List Callback
  | _, waiting, [] => waiting
  | h, waiting, e :: events =>
      if h.beginsPass e then waiting
      else spared g (react g h e) (waiting.filter fun c => !h.drops c e) events

theorem sublist_enqueue (q : Queue) (c : Callback) : q.entries.Sublist (q.enqueue c).2.entries := by
  unfold Queue.enqueue Queue.offer
  cases q.admits c.target with
  | true => exact List.sublist_append_left _ _
  | false => exact List.Sublist.refl _

theorem filter_sublist_discard (q : Queue) (id : Nat) :
    (q.entries.filter fun c => !decide (c.target = .timer id)).Sublist (q.discard id).2.entries := by
  rw [Queue.discard]
  split
  · simp
  · exact List.filter_sublist

theorem filter_sublist_discardAll {ids : List Nat} {p : Callback → Bool} :
    ∀ {q : Queue}, (∀ c, p c = true → ∀ id ∈ ids, c.target ≠ .timer id) →
      (q.entries.filter p).Sublist (Timers.discardAll q ids).entries := by
  induction ids with
  | nil => exact fun _ => List.filter_sublist
  | cons id ids ih =>
      intro q hp
      have hrest : ∀ c, p c = true → ∀ id ∈ ids, c.target ≠ .timer id :=
        fun c hc other hother => hp c hc other (List.mem_cons_of_mem _ hother)
      -- what satisfies the test is not dropped with the first timer
      have hfirst : q.entries.filter p =
          (q.entries.filter fun c => !decide (c.target = .timer id)).filter p := by
        rw [List.filter_filter]
        refine List.filter_congr fun c _ => ?_
        cases hc : p c with
        | false => rfl
        | true => simp [hp c hc id List.mem_cons_self]
      rw [hfirst]
      exact ((filter_sublist_discard q id).filter p).trans (ih hrest)

theorem sublist_wakeTimer (s : Services) (id : Nat) :
    s.queue.entries.Sublist (s.wakeTimer id).queue.entries := by
  rw [Services.wakeTimer]
  split
  · show s.queue.entries.Sublist (s.timers.fireAt s.queue id s.now).2.entries
    rw [Timers.queue_fireAt]
    split
    · exact sublist_enqueue _ _
    · exact List.Sublist.refl _
  · exact List.Sublist.refl _

theorem sublist_deliver (s : Services) (op : Nat) :
    s.queue.entries.Sublist (s.deliver op).queue.entries := by
  show s.queue.entries.Sublist (s.network.deliver s.queue op).2.entries
  rw [Network.Coordinator.deliver]
  split
  · dsimp only
    exact sublist_enqueue _ _
  · exact List.Sublist.refl _

/-- Other threads add to the queue, and take out what they drop. -/
theorem filter_sublist_react (g : Guest σ) (h : Host σ) {e : Event} (hwork : e ≠ .work) :
    (h.services.queue.entries.filter fun c => !h.drops c e).Sublist
      (react g h e).services.queue.entries := by
  cases e with
  | work => exact absurd rfl hwork
  | takeJob =>
      rw [react, services_takeJob]
      exact List.filter_sublist
  | takeToken =>
      refine List.filter_sublist.trans ?_
      rw [react, takeToken?]
      split
      · rename_i htoken
        rw [← (Prod.mk.inj htoken).2]
        exact List.Sublist.refl _
      · exact List.Sublist.refl _
  | disconnect =>
      rw [react, services_disconnect]
      exact List.filter_sublist
  | wakeTimer id => exact List.filter_sublist.trans (sublist_wakeTimer _ id)
  | cancelTimer id => exact filter_sublist_discard _ id
  | discard id => exact filter_sublist_discard _ id
  | deliver op => exact List.filter_sublist.trans (sublist_deliver _ op)
  | offer c =>
      refine List.filter_sublist.trans ?_
      rw [react, Queue.offer]
      split
      · exact List.sublist_append_left _ _
      · exact List.Sublist.refl _
  | tearDown =>
      rw [List.filter_eq_nil_iff.2 fun _ _ => by simp [drops]]
      exact List.nil_sublist _
  | stop =>
      rw [react, services_stop]
      exact List.filter_sublist
  | conclude =>
      rw [react, conclude]
      cases hrunning : h.isRunning with
      | true => exact List.filter_sublist
      | false =>
          rw [List.filter_eq_nil_iff.2 fun _ _ => by simp [drops, hrunning]]
          exact List.nil_sublist _
  | drop =>
      rw [react, drop]
      cases hheld : h.held with
      | false => exact List.filter_sublist
      | true =>
          simp only [if_true, services_stop]
          refine filter_sublist_discardAll fun c hc id hid htarget => ?_
          rw [Timers.mem_keys_iff] at hid
          simp [drops, hheld, htarget, hid] at hc
  | submit | enter | giveUp | collect | elapse | begin | reply | giveUpOperation | retire | signal
  | cloneBridge | dropBridge => exact List.filter_sublist

/-! ## From the end of an execution to the next pass -/

/-- Whether an execution has ended and no pass has begun since. -/
def awaitsPass : Interpreter σ → Bool
  | .executed _ _ | .completed _ _ | .counted _ _ | .draining => true
  | _ => false

/-- Until the pass begins, the interpreter goes on to it and leaves the queue alone. -/
theorem awaitsPass_react (g : Guest σ) {h : Host σ} (hawaits : awaitsPass h.interpreter = true)
    {e : Event} (hpass : h.beginsPass e = false) :
    awaitsPass (react g h e).interpreter = true ∧
      (h.services.queue.entries.filter fun c => !h.drops c e).Sublist
        (react g h e).services.queue.entries := by
  by_cases hwork : e = .work
  · subst hwork
    obtain ⟨services, guest, bridge, channel, interpreter, held, bridges⟩ := h
    cases interpreter with
    | executed | counted => exact ⟨rfl, List.filter_sublist⟩
    | completed =>
        simp only [react, work?]
        split <;> exact ⟨rfl, List.filter_sublist⟩
    | draining => cases hpass
    | selecting | executing | passing | invoking | stopped | crashed => cases hawaits
  · refine ⟨?_, filter_sublist_react g h hwork⟩
    rcases interpreter_react g h e with heq | rfl | hsame | ⟨hselecting, -⟩
    · exact absurd heq hwork
    · rcases takeJob_cases g h with ⟨-, hsame⟩ | ⟨job, hselecting, -⟩
      · rw [react, hsame]
        exact hawaits
      · rw [hselecting] at hawaits
        cases hawaits
    · rw [hsame]
      exact hawaits
    · rw [hselecting] at hawaits
      cases hawaits

/-- What is spared has been taken once the interpreter is past the beginning of the pass. -/
theorem spared_sublist_gathered {g : Guest σ} {events : List Event} :
    ∀ {h : Host σ} {waiting : List Callback}, awaitsPass h.interpreter = true →
      waiting.Sublist h.services.queue.entries →
      awaitsPass (Host.run g h events).interpreter = false →
      (spared g h waiting events).Sublist (gathered g h events) := by
  induction events with
  | nil =>
      intro h waiting hawaits _ hend
      rw [Host.run, List.foldl_nil, hawaits] at hend
      cases hend
  | cons e events ih =>
      intro h waiting hawaits hwaiting hend
      rw [spared, gathered]
      cases hpass : h.beginsPass e with
      | true =>
          -- the pass takes the whole queue
          have hall : h.gathers e = h.services.queue.entries := by
            unfold beginsPass at hpass
            split at hpass
            · split at hpass
              · rename_i hdraining
                rw [gathers, hdraining]
                rfl
              · cases hpass
            · cases hpass
          rw [if_pos rfl, hall]
          exact hwaiting.trans (List.sublist_append_left _ _)
      | false =>
          obtain ⟨hnext, hentries⟩ := awaitsPass_react g hawaits hpass
          rw [if_neg Bool.false_ne_true]
          refine (ih hnext ?_ hend).trans (List.sublist_append_right _ _)
          exact (hwaiting.filter _).trans hentries

/-! ## Executions that have ended -/

theorem finishes_cases {g : Guest σ} {h : Host σ} {e : Event} {p : Request × Result}
    (hin : p ∈ h.finishes e) :
    e = .work ∧ h.finishes .work = [p] ∧ (react g h .work).interpreter = .executed p.1 p.2 := by
  by_cases hwork : e = .work
  · subst hwork
    refine ⟨rfl, ?_⟩
    have hworks := works g h
    generalize hfinished : h.finishes .work = finished at hin hworks ⊢
    show _ ∧ ((h.work? g).getD h).interpreter = _
    generalize (h.work? g).getD h = h' at hworks ⊢
    cases hworks with
    | finishes =>
        rw [List.mem_singleton.1 hin]
        exact ⟨rfl, rfl⟩
    | waits | executes | completes | succeeds | fails | answers | drains | selects | invokes
    | goes_on | crashes | returns => cases hin
  · rw [finishes_eq_nil h hwork] at hin
    cases hin

/-- An execution that has finished did so at some event of the run. -/
theorem exists_finishes {g : Guest σ} {events : List Event} {p : Request × Result} :
    ∀ {h : Host σ} {past : History}, p ∈ (history g h past events).finished →
      p ∈ past.finished ∨ ∃ before between, events = before ++ .work :: between ∧
        (Host.run g h before).finishes .work = [p] := by
  induction events with
  | nil => exact fun hin => .inl hin
  | cons e events ih =>
      intro h past hin
      rcases ih hin with hin | ⟨before, between, rfl, hfinishes⟩
      · rcases List.mem_append.1 hin with hin | hin
        · exact .inl hin
        · obtain ⟨rfl, hfinishes, -⟩ := finishes_cases (g := g) hin
          exact .inr ⟨[], events, rfl, hfinishes⟩
      · exact .inr ⟨e :: before, between, rfl, hfinishes⟩

/-! ## The next execution -/

theorem selecting_of_takes {h : Host σ} {job : Job} (htakes : h.takes .takeJob = [job]) :
    h.interpreter = .selecting := by
  rw [takes] at htakes
  split at htakes
  · assumption
  · cases htakes

/-- By the time a job is taken, what was spared has been handed over. -/
theorem spared_sublist_handed {g : Guest σ} {h : Host σ} {p : Request × Result}
    (hfinishes : h.finishes .work = [p]) {between : List Event} {job : Job}
    (htakes : (Host.run g (react g h .work) between).takes .takeJob = [job]) :
    let ended := react g h .work
    (spared g ended ended.services.queue.entries between).Sublist
      (handed (crossed g ended between)) := by
  intro ended
  have hselecting := selecting_of_takes htakes
  obtain ⟨-, -, hexecuted⟩ :=
    finishes_cases (g := g) (e := .work) (p := p) (by rw [hfinishes]; exact List.mem_singleton_self _)
  have hall : gathered g ended between = handed (crossed g ended between) := by
    have htaken : remaining ended.interpreter ++ gathered g ended between = _ :=
      gathered_eq (by rw [hselecting]; rfl)
    rw [hexecuted, hselecting] at htaken
    exact htaken.trans (List.append_nil _)
  rw [← hall]
  refine spared_sublist_gathered ?_ (List.Sublist.refl _) ?_
  · rw [hexecuted]
    rfl
  · rw [hselecting]
    rfl

theorem run_split (g : Guest σ) (h : Host σ) (before between : List Event) :
    Host.run g h (before ++ .work :: between) =
      Host.run g (react g (Host.run g h before) .work) between := by
  rw [Host.run, List.foldl_append]
  rfl

/-- While the interpreter selects, all visits so far are over and passes have nothing left. -/
theorem visited_of_selecting (g : Guest σ) (capacity : Nat) (guest : σ) {events : List Event}
    (hselecting : (Host.run g (fresh capacity guest) events).interpreter = .selecting) :
    (∃ visits, crossed g (fresh capacity guest) events = crossingsOf visits) ∧
      gathered g (fresh capacity guest) events = handed (crossed g (fresh capacity guest) events) := by
  constructor
  · obtain ⟨visits, -, hvisits⟩ := (logged_iff (by rw [hselecting]; rfl)).1 (logged g capacity guest events)
    exact ⟨visits, hvisits⟩
  · have htaken : remaining (fresh capacity guest).interpreter ++
        gathered g (fresh capacity guest) events = _ := gathered_eq (by rw [hselecting]; rfl)
    rw [hselecting] at htaken
    exact htaken.trans (List.append_nil _)

/-- **The backlog comes before the next execution.**  Visits to guest code never overlap: the log
consists of whole visits, one after the other, but for one that goes on as long as guest code runs.
The log is true: each event does to the interpreter what `Crosses` says of its entry, so that a callback
is handed over by running what the guest invokes for it, and a pass goes through what it has taken.

Whenever an execution has ended and a later one begins, every callback that was in the queue at the
end and that nobody has dropped before the pass has been handed over in between, in the order of the
queue; and so has, by then, everything else that passes have taken.

A submission that is made when the caller of another one has its result is such a later one. -/
theorem backlog_before_next_execution (g : Guest σ) (capacity : Nat) (guest : σ) :
    let start := fresh capacity guest
    (∀ events, ∃ visits,
      isInside (Host.run g start events).interpreter = false ∧
          crossed g start events = crossingsOf visits ∨
        isInside (Host.run g start events).interpreter = true ∧
          ∃ errand, crossed g start events = crossingsOf visits ++ [.enters errand]) ∧
    (∀ events e,
      let h := Host.run g start events
      Crosses g h.interpreter (react g h e).interpreter (h.gathers e) (h.crossings e)) ∧
    (∀ before between p request, (Host.run g start before).finishes .work = [p] →
      let ended := react g (Host.run g start before) .work
      (Host.run g ended between).takes .takeJob = [.execute request] →
      (spared g ended ended.services.queue.entries between).Sublist
          (handed (crossed g ended between)) ∧
        let events := before ++ .work :: between
        (∃ visits, crossed g start events = crossingsOf visits) ∧
          gathered g start events = handed (crossed g start events)) ∧
    (∀ earlier later id call result source chunk timeoutMillis,
      let met := Host.run g start earlier
      met.bridge.calls.get? id = some call → call.stage = .ended (.ok result) →
      let resumed := .submit false source chunk timeoutMillis :: later
      (Host.run g met resumed).takes .takeJob =
          [.execute ⟨met.bridge.nextId, source, chunk, timeoutMillis⟩] →
      ∃ before between, earlier = before ++ .work :: between ∧
        (Host.run g start before).finishes .work = [(call.request, result)] ∧
        let ended := react g (Host.run g start before) .work
        (spared g ended ended.services.queue.entries (between ++ resumed)).Sublist
            (handed (crossed g ended (between ++ resumed))) ∧
          (∃ visits, crossed g start (earlier ++ resumed) = crossingsOf visits) ∧
            gathered g start (earlier ++ resumed) =
              handed (crossed g start (earlier ++ resumed))) := by
  intro start
  refine ⟨fun events => ?_, fun events e => crosses g (Host.run g start events) e, ?_, ?_⟩
  · obtain ⟨visits, hvisits⟩ := logged g capacity guest events
    refine ⟨visits, ?_⟩
    cases hinterpreter : (Host.run g (fresh capacity guest) events).interpreter with
    | executing request since code =>
        rw [hinterpreter] at hvisits
        exact .inr ⟨rfl, .execution request, hvisits.2⟩
    | invoking code rest counts =>
        rw [hinterpreter] at hvisits
        obtain ⟨-, c, hlog⟩ := hvisits
        exact .inr ⟨rfl, .callback c, hlog⟩
    | crashed message =>
        rw [hinterpreter] at hvisits
        exact .inl ⟨rfl, hvisits.1⟩
    | selecting | executed | completed | counted | draining | passing | stopped =>
        rw [hinterpreter] at hvisits
        exact .inl ⟨rfl, hvisits.2⟩
  · intro before between p request hfinishes ended htakes
    refine ⟨spared_sublist_handed hfinishes htakes, visited_of_selecting g capacity guest ?_⟩
    rw [run_split]
    exact selecting_of_takes htakes
  · intro earlier later id call result source chunk timeoutMillis met hget hended resumed htakes
    have hchronicle : Chronicle g met (history g start .empty earlier) :=
      (chronicle_fresh g capacity guest).run
    have hfate := (hchronicle.accounts.calls id call hget).2.2
    rw [Submission.Fate, hended] at hfate
    rcases exists_finishes hfate.2 with hnone | ⟨before, between, rfl, hfinishes⟩
    · cases hnone
    · have hrun : Host.run g met resumed =
          Host.run g (react g (Host.run g start before) .work) (between ++ resumed) := by
        show Host.run g (Host.run g start (before ++ .work :: between)) resumed = _
        rw [run_split, Host.run, Host.run, ← List.foldl_append]
        rfl
      refine ⟨before, between, rfl, hfinishes, ?_, visited_of_selecting g capacity guest ?_⟩
      · rw [hrun] at htakes
        exact spared_sublist_handed hfinishes htakes
      · rw [List.append_assoc, List.cons_append, run_split, ← hrun]
        exact selecting_of_takes htakes

/-- The timer of a script fires while the script still runs.  The caller collects its result before
the pass begins. -/
def alarmMet : List Event :=
  [.submit false "" "" 0, .enter 1, .takeJob, .work, .work, .wakeTimer 1] ++
    List.replicate 5 .work ++ [.collect 1]

/-- The caller submits again, and the interpreter makes its pass. -/
def alarmResumed : List Event :=
  .submit false "" "" 0 :: .enter 2 :: List.replicate 6 .work

/-- The firing is handed over before the second execution. -/
theorem alarm_before_next_execution :
    let g := alarms.guest
    let start := fresh 1 (State.start ())
    let ended := react g (Host.run g start (alarmMet.take 7)) .work
    let between := alarmMet.drop 8 ++ alarmResumed
    spared g ended ended.services.queue.entries between = [.firing 1] ∧
      (spared g ended ended.services.queue.entries between).Sublist
        (handed (crossed g ended between)) ∧
      gathered g start (alarmMet ++ alarmResumed) =
        handed (crossed g start (alarmMet ++ alarmResumed)) :=
  have hnext := backlog_before_next_execution alarms.guest 1 (State.start ())
  have hfirst := hnext.2.2.1 (alarmMet.take 7) (alarmMet.drop 8 ++ alarmResumed)
    (⟨1, "", "", 0⟩, ⟨.ok .null, 0⟩) ⟨2, "", "", 0⟩ rfl rfl
  have ⟨_, _, _, _, _, _, hall⟩ := hnext.2.2.2 alarmMet alarmResumed.tail 1
    ⟨⟨1, "", "", 0⟩, 0, .ended (.ok ⟨.ok .null, 0⟩)⟩ ⟨.ok .null, 0⟩ "" "" 0 rfl rfl rfl
  ⟨rfl, hfirst.1, hall⟩

end ScriptHost.Host
