import ScriptHost.Proofs.Host.Answers
import ScriptHost.Proofs.Host.Visits

/-!
# Progress

An endless run is a sequence of events.  It is fair if the interpreter goes on working, takes a job
again and again if it is free to again and again, and comes out of guest code whenever it has entered
it (`Fair`).  Nothing is asked of the other threads.

In a fair run the interpreter is always free again or has ended (`Fair.frees`).  So as long as no
panic ends it, everything that is due begins (`Fair.begins`) and finishes (`Fair.finishes`), and its
caller does not go on waiting (`Kept.answered_of_free`).
-/

namespace ScriptHost.Host

open Guest (Request)
open Ready (Callback)
open Submission (Call Channel History Job Result)

variable {σ : Type}

/-! ## The end of a host -/

theorem attended_send {c d : Channel} {job : Job} (hsend : c.send job = .ok d) :
    d.attended = c.attended := by
  rw [Channel.send] at hsend
  split at hsend
  · cases hsend
  · split at hsend
    · cases hsend
    · cases hsend
      rfl

theorem attended_take {c d : Channel} {job : Job} (htake : c.take = some (job, d)) :
    d.attended = c.attended := by
  rw [Channel.take] at htake
  split at htake
  · cases htake
  · cases htake
    rfl

/-- The interpreter takes jobs as long as it runs. -/
def IsAttended (h : Host σ) : Prop := h.channel.attended = h.isRunning

theorem IsAttended.stop {h : Host σ} (hattended : IsAttended h) : IsAttended h.stop := by
  rw [IsAttended, isRunning, interpreter_stop, ← isRunning, ← hattended, Host.stop]
  split
  · rename_i channel hsend
    exact attended_send hsend
  · rfl

theorem IsAttended.works {g : Guest σ} {h h' : Host σ} {finished : List (Request × Result)}
    (hattended : IsAttended h) (hworks : Works g h finished h') : IsAttended h' := by
  unfold IsAttended isRunning at hattended ⊢
  cases hworks with
  | waits => exact hattended
  | executes hinterpreter | finishes hinterpreter | completes hinterpreter | succeeds hinterpreter
  | fails hinterpreter | answers hinterpreter | drains hinterpreter | selects hinterpreter
  | invokes hinterpreter | goes_on hinterpreter | returns _ hinterpreter =>
      rw [hinterpreter] at hattended
      exact hattended
  | crashes => rfl

theorem IsAttended.react {h : Host σ} (hattended : IsAttended h) (g : Guest σ) (e : Event) :
    IsAttended (Host.react g h e) := by
  cases e with
  | work => exact hattended.works (Host.works g h)
  | enter call =>
      show (h.bridge.enter h.channel call).2.attended = h.isRunning
      rcases h.bridge.enter_cases h.channel call with
        hnothing | ⟨made, -, -, ⟨entered, hsend, henter⟩ | ⟨-, henter⟩⟩
      · rw [hnothing, hattended]
      · rw [henter, ← hattended]
        exact attended_send hsend
      · rw [henter, hattended]
  | takeJob =>
      have hrunning : h.interpreter = .selecting → h.channel.attended = true := by
        intro hselecting
        rw [hattended, isRunning, hselecting]
      simp only [Host.react, takeJob?]
      split
      · rename_i hselecting htake
        exact (attended_take htake).trans (hrunning hselecting)
      · rename_i hselecting htake
        exact (attended_take htake).trans (hrunning hselecting)
      · rfl
      · exact hattended
  | takeToken =>
      simp only [Host.react, takeToken?]
      split
      · rename_i hselecting _
        unfold IsAttended isRunning at hattended
        rw [hselecting] at hattended
        exact hattended
      · exact hattended
  | disconnect =>
      simp only [Host.react, disconnect?]
      split
      · split
        · rfl
        · exact hattended
      · exact hattended
  | tearDown =>
      have hrunning : (Host.react g h .tearDown).isRunning = h.isRunning := rfl
      rw [IsAttended, hrunning, ← hattended, Host.react, tearDown]
      dsimp only
      split
      · rename_i channel hsend
        exact attended_send hsend
      · rfl
  | stop => exact hattended.stop
  | conclude =>
      rw [Host.react, conclude]
      split <;> exact hattended
  | drop =>
      rw [Host.react, drop]
      split
      · exact hattended.stop
      · exact hattended
  | submit | giveUp | collect | elapse | wakeTimer | cancelTimer | begin | reply | giveUpOperation
  | deliver | retire | offer | signal | discard | cloneBridge | dropBridge => exact hattended

theorem enters_of_unattended {h : Host σ} (hattended : h.channel.attended = false) (e : Event) :
    h.enters e = [] := by
  have hentry : ∀ job, h.entry job = [] := by
    intro job
    have hrefused : h.channel.send job = .error .unattended := by
      rw [Channel.send, hattended]
      rfl
    exact entry_of_error hrefused
  cases e with
  | enter call =>
      rw [enters]
      split
      · exact hentry _
      · rfl
  | tearDown => exact hentry _
  | stop => exact hentry _
  | drop =>
      rw [enters]
      split
      · exact hentry _
      · rfl
  | submit | giveUp | collect | takeJob | takeToken | disconnect | work | elapse | wakeTimer
  | cancelTimer | begin | reply | giveUpOperation | deliver | retire | offer | signal | discard
  | conclude | cloneBridge | dropBridge => rfl

/-- What ends the interpreter without a panic: it takes the job to stop, or no job is left. -/
theorem stops_cases (g : Guest σ) {h : Host σ} {e : Event} (hbefore : h.interpreter ≠ .stopped)
    (hafter : (react g h e).interpreter = .stopped) :
    h.takes e = [.stop] ∨ (react g h e).channel.jobs = [] := by
  cases e with
  | work =>
      have hworks := works g h
      change ((h.work? g).getD h).interpreter = _ at hafter
      generalize (h.work? g).getD h = h', h.finishes .work = finished at hworks hafter
      cases hworks with
      | waits => exact absurd hafter hbefore
      | executes | finishes | completes | succeeds | fails | answers | drains | selects | invokes
      | goes_on | crashes | returns => cases hafter
  | takeJob =>
      rcases takeJob_cases g h with ⟨-, hsame⟩ | ⟨job, -, htakes, -, -, hnext⟩
      · rw [react, hsame] at hafter
        exact absurd hafter hbefore
      · rw [react, hnext] at hafter
        cases job with
        | stop => exact .inl htakes
        | execute | releaseClosures => cases hafter
  | takeToken =>
      simp only [react, takeToken?] at hafter
      split at hafter
      · cases hafter
      · exact absurd hafter hbefore
  | disconnect =>
      have hjobs : h.channel.jobs = (react g h .disconnect).channel.jobs :=
        (List.append_nil _).symm.trans (flow g h .disconnect)
      simp only [react, disconnect?] at hafter
      split at hafter
      · split at hafter
        · rename_i hdisconnected
          -- the interpreter goes because the channel is empty and nobody can send
          simp only [isDisconnected, Bool.and_eq_true, List.isEmpty_iff] at hdisconnected
          exact .inr (hjobs.symm.trans hdisconnected.2)
        · exact absurd hafter hbefore
      · exact absurd hafter hbefore
  | stop => exact absurd ((interpreter_stop h).symm.trans hafter) hbefore
  | conclude =>
      rw [react, conclude] at hafter
      split at hafter <;> exact absurd hafter hbefore
  | drop =>
      rw [react, drop] at hafter
      split at hafter
      · exact absurd ((interpreter_stop h).symm.trans hafter) hbefore
      · exact absurd hafter hbefore
  | submit | enter | giveUp | collect | elapse | wakeTimer | cancelTimer | begin | reply
  | giveUpOperation | deliver | retire | offer | signal | discard | tearDown | cloneBridge
  | dropBridge => exact absurd hafter hbefore

/-- An interpreter that has stopped was asked to, or no job can ever come. -/
structure Concluded (h : Host σ) (past : History) : Prop where
  attended : IsAttended h
  stopped : h.interpreter = .stopped → .stop ∈ past.taken ∨ h.channel.jobs = []

theorem Concluded.react {h : Host σ} {past : History} (hconcluded : Concluded h past) (g : Guest σ)
    (e : Event) : Concluded (Host.react g h e) (record past h e) := by
  refine ⟨hconcluded.attended.react g e, fun hstopped => ?_⟩
  by_cases hbefore : h.interpreter = .stopped
  · -- nothing enters any more
    have hunattended : h.channel.attended = false := by
      rw [hconcluded.attended, isRunning, hbefore]
    have htakes : h.takes e = [] := by
      unfold takes
      split
      · rw [hbefore]
      · rfl
    have hflow := flow g h e
    rw [enters_of_unattended hunattended e, htakes, List.append_nil, List.nil_append] at hflow
    refine (hconcluded.stopped hbefore).imp (List.mem_append_left _) fun hjobs => ?_
    rw [← hflow, hjobs]
  · refine (stops_cases g hbefore hstopped).imp_left fun htakes => ?_
    exact List.mem_append_right _ (htakes ▸ List.mem_singleton_self _)

/-! ## Endless runs -/

/-- The first events of an endless run. -/
def first (s : Nat → Event) (n : Nat) : List Event := (List.range n).map s

/-- A host after so many events of an endless run. -/
def moment (g : Guest σ) (h : Host σ) (s : Nat → Event) (n : Nat) : Host σ := Host.run g h (first s n)

/-- What has happened by then. -/
def pastAt (g : Guest σ) (h : Host σ) (s : Nat → Event) (n : Nat) : History :=
  history g h .empty (first s n)

theorem first_succ (s : Nat → Event) (n : Nat) : first s (n + 1) = first s n ++ [s n] := by
  rw [first, List.range_succ, List.map_append]
  rfl

theorem moment_succ (g : Guest σ) (h : Host σ) (s : Nat → Event) (n : Nat) :
    moment g h s (n + 1) = react g (moment g h s n) (s n) := by
  rw [moment, first_succ, Host.run, List.foldl_append]
  rfl

theorem pastAt_succ (g : Guest σ) (h : Host σ) (s : Nat → Event) (n : Nat) :
    pastAt g h s (n + 1) = record (pastAt g h s n) (moment g h s n) (s n) := by
  rw [pastAt, first_succ, history_append]
  rfl

/-- The interpreter goes on for ever, and its guest code ends. -/
structure Fair (g : Guest σ) (h : Host σ) (s : Nat → Event) : Prop where
  works : ∀ n, ∃ m, n ≤ m ∧ s m = .work
  /-- An interpreter that is free again and again does not always prefer the wake-up token. -/
  takes : (∀ n, ∃ m, n ≤ m ∧ (moment g h s m).interpreter = .selecting) →
    ∀ n, ∃ m, n ≤ m ∧ (moment g h s m).interpreter = .selecting ∧ s m = .takeJob
  /-- Guest code that has been entered returns, raises or panics. -/
  leaves : ∀ n, isInside (moment g h s n).interpreter = true →
    ∃ m, n ≤ m ∧ isInside (moment g h s m).interpreter = false

/-- What holds at every moment of a run from the beginning. -/
structure Kept (g : Guest σ) (h : Host σ) (past : History) : Prop where
  chronicle : Chronicle g h past
  concluded : Concluded h past
  prompt : Prompt h past

theorem kept (g : Guest σ) (capacity : Nat) (guest : σ) (s : Nat → Event) (n : Nat) :
    Kept g (moment g (fresh capacity guest) s n) (pastAt g (fresh capacity guest) s n) := by
  induction n with
  | zero =>
      exact ⟨chronicle_fresh g capacity guest, ⟨rfl, fun hstopped => nomatch hstopped⟩,
        prompt_fresh capacity guest⟩
  | succ n ih =>
      rw [moment_succ, pastAt_succ]
      exact ⟨ih.chronicle.react (s n), ih.concluded.react g (s n),
        ih.prompt.react ih.chronicle (s n)⟩

/-- What has entered, been taken or finished stays so. -/
theorem pastAt_prefix (g : Guest σ) (h : Host σ) (s : Nat → Event) {n m : Nat} (hle : n ≤ m) :
    (pastAt g h s n).entered <+: (pastAt g h s m).entered ∧
      (pastAt g h s n).taken <+: (pastAt g h s m).taken ∧
      (pastAt g h s n).finished <+: (pastAt g h s m).finished := by
  induction hle with
  | refl => exact ⟨List.prefix_rfl, List.prefix_rfl, List.prefix_rfl⟩
  | step _ ih =>
      rw [pastAt_succ]
      exact ⟨ih.1.trans (List.prefix_append _ _), ih.2.1.trans (List.prefix_append _ _),
        ih.2.2.trans (List.prefix_append _ _)⟩

/-- Whether the interpreter is free to take a job or has ended. -/
def isFree : Interpreter σ → Bool
  | .selecting | .stopped | .crashed _ => true
  | _ => false

theorem isFree_of_isCrashed {i : Interpreter σ} (hcrashed : isCrashed i = true) :
    isFree i = true := by
  unfold isCrashed at hcrashed
  split at hcrashed
  · rfl
  · cases hcrashed

theorem answering?_of_isFree {i : Interpreter σ} (hfree : isFree i = true) : answering? i = none := by
  cases i with
  | selecting | stopped | crashed => rfl
  | executing | executed | completed | counted | draining | passing | invoking => cases hfree

/-- From a moment on the interpreter is free again or ends. -/
def Frees (g : Guest σ) (h : Host σ) (s : Nat → Event) (n : Nat) : Prop :=
  ∃ m, n ≤ m ∧ isFree (moment g h s m).interpreter = true

theorem Frees.mono {g : Guest σ} {h : Host σ} {s : Nat → Event} {n m : Nat} (hfrees : Frees g h s m)
    (hle : n ≤ m) : Frees g h s n := by
  obtain ⟨k, hk, hfree⟩ := hfrees
  exact ⟨k, Nat.le_trans hle hk, hfree⟩

/-- How guest code is left. -/
def Leaves : Interpreter σ → Interpreter σ → Prop
  | .executing request _ _, j => ∃ result, j = .executed request result
  | .invoking _ rest _, j => isCrashed j = true ∨ ∃ counts, j = .passing rest counts
  | _, _ => False

namespace Fair

variable {g : Guest σ} {h : Host σ} {s : Nat → Event}

/-! ### The interpreter becomes free -/

/-- An interpreter that is not free to take a job does its next step. -/
theorem step (hfair : Fair g h s) {n : Nat} {i : Interpreter σ}
    (hi : (moment g h s n).interpreter = i) (hbusy : i ≠ .selecting) :
    ∃ (m : Nat) (x : Host σ), n ≤ m ∧ x.interpreter = i ∧
      moment g h s m = (x.work? g).getD x := by
  obtain ⟨m, hle, hwork⟩ := hfair.works n
  obtain ⟨d, rfl⟩ := Nat.exists_eq_add_of_le hle
  clear hle
  induction d generalizing n with
  | zero =>
      rw [Nat.add_zero] at hwork
      exact ⟨n + 1, moment g h s n, Nat.le_succ n, hi, by rw [moment_succ, hwork, react]⟩
  | succ d ih =>
      by_cases hnow : s n = .work
      · exact ⟨n + 1, moment g h s n, Nat.le_succ n, hi, by rw [moment_succ, hnow, react]⟩
      · -- nothing else changes what the interpreter is doing
        have hsame : (moment g h s (n + 1)).interpreter = i := by
          rw [moment_succ, interpreter_react_of_busy g (hi ▸ hbusy) hnow, hi]
        have hlater : s (n + 1 + d) = .work := by
          rw [← hwork]
          congr 1
          omega
        obtain ⟨m, x, hle, hx⟩ := ih hsame hlater
        exact ⟨m, x, by omega, hx⟩

theorem leaves_first (hfair : Fair g h s) {n : Nat}
    (hinside : isInside (moment g h s n).interpreter = true) :
    ∃ m, n ≤ m ∧ Leaves (moment g h s n).interpreter (moment g h s m).interpreter := by
  obtain ⟨m, hle, hout⟩ := hfair.leaves n hinside
  obtain ⟨d, rfl⟩ := Nat.exists_eq_add_of_le hle
  clear hle
  induction d generalizing n with
  | zero =>
      rw [Nat.add_zero, hinside] at hout
      cases hout
  | succ d ih =>
      have hlater : isInside (moment g h s (n + 1 + d)).interpreter = false := by
        rw [← hout]
        congr 3
        omega
      -- if the code goes on, it is left later, and in the same way
      have hgoes_on : ∀ {i}, (moment g h s n).interpreter = i →
          isInside (moment g h s (n + 1)).interpreter = true →
          (∀ j, Leaves (moment g h s (n + 1)).interpreter j → Leaves i j) →
          ∃ m, n ≤ m ∧ Leaves i (moment g h s m).interpreter := by
        intro i _ hnext hsame
        obtain ⟨m, hle, hleaves⟩ := ih hnext hlater
        exact ⟨m, by omega, hsame _ hleaves⟩
      obtain ⟨batch, log, hcrosses⟩ : ∃ batch log, Crosses g (moment g h s n).interpreter
          (moment g h s (n + 1)).interpreter batch log := by
        rw [moment_succ]
        exact ⟨_, _, crosses g (moment g h s n) (s n)⟩
      generalize hj : (moment g h s (n + 1)).interpreter = j at hcrosses hgoes_on
      cases hinterpreter : (moment g h s n).interpreter with
      | executing request since code =>
          rw [hinterpreter] at hcrosses
          cases hcrosses with
          | same => exact hgoes_on hinterpreter rfl fun _ hleaves => hleaves
          | moves hi => cases hi
          | executes => exact hgoes_on hinterpreter rfl fun _ hleaves => hleaves
          | finishes => exact ⟨n + 1, Nat.le_succ n, _, hj⟩
      | invoking code rest counts =>
          rw [hinterpreter] at hcrosses
          cases hcrosses with
          | same => exact hgoes_on hinterpreter rfl fun _ hleaves => hleaves
          | moves hi => cases hi
          | goes_on => exact hgoes_on hinterpreter rfl fun _ hleaves => hleaves
          | panics => exact ⟨n + 1, Nat.le_succ n, .inl (by rw [hj]; rfl)⟩
          | returns => exact ⟨n + 1, Nat.le_succ n, .inr ⟨_, hj⟩⟩
      | selecting | executed | completed | counted | draining | passing | stopped | crashed =>
          rw [hinterpreter] at hinside
          cases hinside

theorem frees_of_step (hfair : Fair g h s) {n : Nat} {i : Interpreter σ}
    (hi : (moment g h s n).interpreter = i) (hbusy : i ≠ .selecting)
    (hnext : ∀ (m : Nat) (x : Host σ), x.interpreter = i → moment g h s m = (x.work? g).getD x →
      Frees g h s m) : Frees g h s n := by
  obtain ⟨m, x, hle, hx, hm⟩ := hfair.step hi hbusy
  exact (hnext m x hx hm).mono hle

/-- A pass comes to its end, by induction on what is left of the batch. -/
theorem frees_passing (hfair : Fair g h s) {rest : List Callback} :
    ∀ {n : Nat} {counts : Ready.PassCounts},
      (moment g h s n).interpreter = .passing rest counts → Frees g h s n := by
  induction rest with
  | nil =>
      intro n counts hi
      refine hfair.frees_of_step hi (by simp) fun m x hx hm => ⟨m, Nat.le_refl m, ?_⟩
      rw [hm, work?, hx]
      rfl
  | cons c rest ih =>
      intro n counts hi
      refine hfair.frees_of_step hi (by simp) fun m x hx hm => ?_
      have hinvoking : (moment g h s m).interpreter = .invoking (g.invoke c) rest counts := by
        rw [hm, work?, hx]
        rfl
      obtain ⟨k, hle, hleaves⟩ := hfair.leaves_first (n := m) (by rw [hinvoking]; rfl)
      rw [hinvoking] at hleaves
      rcases hleaves with hcrashed | ⟨counts, hpassing⟩
      · exact ⟨k, hle, isFree_of_isCrashed hcrashed⟩
      · exact (ih hpassing).mono hle

/-- The interpreter is always free again or ends. -/
theorem frees (hfair : Fair g h s) (n : Nat) : Frees g h s n := by
  have hdraining : ∀ {n}, (moment g h s n).interpreter = .draining → Frees g h s n := by
    intro n hi
    refine hfair.frees_of_step hi (by simp) fun m x hx hm => ?_
    have hpassing : (moment g h s m).interpreter = .passing x.services.queue.drain.1 .zero := by
      rw [hm, work?, hx]
      rfl
    exact hfair.frees_passing hpassing
  have hcounted : ∀ {n request result}, (moment g h s n).interpreter = .counted request result →
      Frees g h s n := fun hi =>
    hfair.frees_of_step hi (by simp) fun m x hx hm => hdraining (by rw [hm, work?, hx]; rfl)
  have hcompleted : ∀ {n request result}, (moment g h s n).interpreter = .completed request result →
      Frees g h s n := fun hi =>
    hfair.frees_of_step hi (by simp) fun m x hx hm => hcounted (by rw [hm, work?, hx]; rfl)
  have hexecuted : ∀ {n request result}, (moment g h s n).interpreter = .executed request result →
      Frees g h s n := fun hi =>
    hfair.frees_of_step hi (by simp) fun m x hx hm => hcompleted (by rw [hm, work?, hx]; rfl)
  cases hinterpreter : (moment g h s n).interpreter with
  | selecting | stopped | crashed => exact ⟨n, Nat.le_refl n, by rw [hinterpreter]; rfl⟩
  | executing request since code =>
      obtain ⟨m, hle, hleaves⟩ := hfair.leaves_first (n := n) (by rw [hinterpreter]; rfl)
      rw [hinterpreter] at hleaves
      obtain ⟨result, hnext⟩ := hleaves
      exact (hexecuted hnext).mono hle
  | executed => exact hexecuted hinterpreter
  | completed => exact hcompleted hinterpreter
  | counted => exact hcounted hinterpreter
  | draining => exact hdraining hinterpreter
  | passing => exact hfair.frees_passing hinterpreter
  | invoking code rest counts =>
      obtain ⟨m, hle, hleaves⟩ := hfair.leaves_first (n := n) (by rw [hinterpreter]; rfl)
      rw [hinterpreter] at hleaves
      rcases hleaves with hcrashed | ⟨counts, hpassing⟩
      · exact ⟨m, hle, isFree_of_isCrashed hcrashed⟩
      · exact (hfair.frees_passing hpassing).mono hle

end Fair

/-! ### What is due is executed and answered -/

theorem takes_of_selecting {h : Host σ} (hselecting : h.interpreter = .selecting) {job : Job}
    {rest : List Job} (hjobs : h.channel.jobs = job :: rest) : h.takes .takeJob = [job] := by
  simp only [takes, hselecting, Channel.take, hjobs]

/-- What is due has entered. -/
theorem mem_entered_of_due {past : History} {request : Request} (hdue : request ∈ past.due) :
    .execute request ∈ past.entered := by
  obtain ⟨job, hjob, hrequest⟩ := List.mem_filterMap.1 hdue
  cases job with
  | execute own =>
      cases hrequest
      exact (List.takeWhile_prefix _).subset hjob
  | releaseClosures | stop => cases hrequest

/-- What is due stays so when more jobs enter. -/
theorem due_subset {past later : History} (hinitial : past.entered <+: later.entered) :
    past.due ⊆ later.due := by
  obtain ⟨more, hmore⟩ := hinitial
  have htakeWhile : past.entered.takeWhile (· ≠ .stop) ⊆ later.entered.takeWhile (· ≠ .stop) := by
    rw [← hmore, List.takeWhile_append]
    split
    · exact fun job hjob => List.mem_append_left _ ((List.takeWhile_prefix _).subset hjob)
    · exact List.Subset.refl _
  intro request hdue
  obtain ⟨job, hjob, hrequest⟩ := List.mem_filterMap.1 hdue
  exact List.mem_filterMap.2 ⟨job, htakeWhile hjob, hrequest⟩

/-- All that was due has begun once the interpreter has stopped. -/
theorem Kept.begun_of_stopped {g : Guest σ} {h : Host σ} {past : History} (hkept : Kept g h past)
    (hstopped : h.interpreter = .stopped) {request : Request} (hdue : request ∈ past.due) :
    request ∈ past.begun := by
  rcases hkept.concluded.stopped hstopped with hstop | hjobs
  · rwa [hkept.chronicle.begun_eq_due hstop]
  · have hall : past.entered = past.taken := by
      rw [hkept.chronicle.passed, hjobs, List.append_nil]
    refine List.mem_filterMap.2 ⟨.execute request, ?_, rfl⟩
    rw [← hall]
    exact mem_entered_of_due hdue

/-- All that has begun has finished while the interpreter is free. -/
theorem Kept.finished_of_free {g : Guest σ} {h : Host σ} {past : History} (hkept : Kept g h past)
    (hfree : isFree h.interpreter = true) {request : Request} (hbegun : request ∈ past.begun) :
    ∃ result, (request, result) ∈ past.finished := by
  rcases hkept.chronicle.begun_cases with hall | ⟨own, since, code, hexecuting, -⟩
  · rw [hall] at hbegun
    obtain ⟨⟨own, result⟩, hin, rfl⟩ := List.mem_map.1 hbegun
    exact ⟨result, hin⟩
  · rw [hexecuting] at hfree
    cases hfree

/-- The caller of an execution that has finished has the result, or has gone on without it. -/
theorem Kept.answered_of_free {g : Guest σ} {h : Host σ} {past : History} (hkept : Kept g h past)
    (hfree : isFree h.interpreter = true) {request : Request} {result : Result}
    (hfinished : (request, result) ∈ past.finished) :
    ∃ call sent, h.bridge.calls.get? request.id = some call ∧ call.request = request ∧
      (request, sent) ∈ past.finished ∧
      (call.stage = .answered sent ∨ call.stage = .ended (.ok sent) ∨
        call.isTimedOut = true ∧ sent = result) := by
  obtain ⟨call, hget, rfl, hstage⟩ := hkept.prompt.reaches hkept.chronicle hfinished
  refine ⟨call, result, hget, rfl, hfinished, ?_⟩
  rcases hstage with hsent | hcollected | htimeout | ⟨-, hanswering⟩
  · exact .inl hsent
  · exact .inr (.inl hcollected)
  · refine .inr (.inr ⟨?_, rfl⟩)
    rw [Call.isTimedOut, htimeout]
    rfl
  · rw [answering?_of_isFree hfree] at hanswering
    cases hanswering

namespace Fair

variable {g : Guest σ} {capacity : Nat} {guest : σ} {s : Nat → Event}

/-- Jobs are taken one after the other, as many as have entered. -/
theorem takes_many (hfair : Fair g (fresh capacity guest) s) {n : Nat}
    (hselects : ∀ m, n ≤ m → ∃ k, m ≤ k ∧ (moment g (fresh capacity guest) s k).interpreter = .selecting)
    {count : Nat} (hcount : count ≤ (pastAt g (fresh capacity guest) s n).entered.length) :
    ∃ m, n ≤ m ∧ count ≤ (pastAt g (fresh capacity guest) s m).taken.length := by
  induction count with
  | zero => exact ⟨n, Nat.le_refl n, Nat.zero_le _⟩
  | succ count ih =>
      obtain ⟨m, hle, htaken⟩ := ih (Nat.le_of_succ_le hcount)
      have hagain : ∀ k, ∃ k', k ≤ k' ∧
          (moment g (fresh capacity guest) s k').interpreter = .selecting := by
        intro k
        obtain ⟨k', hk', hselecting⟩ := hselects (max n k) (Nat.le_max_left n k)
        exact ⟨k', by omega, hselecting⟩
      obtain ⟨k, hk, hselecting, hjob⟩ := hfair.takes hagain m
      have hkept := kept g capacity guest s k
      obtain ⟨hentered, -, -⟩ := pastAt_prefix g (fresh capacity guest) s (Nat.le_trans hle hk)
      obtain ⟨-, htaken', -⟩ := pastAt_prefix g (fresh capacity guest) s hk
      have hlong := hentered.length_le
      have htaken' := htaken'.length_le
      have hpassed := congrArg List.length hkept.chronicle.passed
      rw [List.length_append] at hpassed
      cases hjobs : (moment g (fresh capacity guest) s k).channel.jobs with
      | nil =>
          rw [hjobs, List.length_nil] at hpassed
          exact ⟨k, by omega, by omega⟩
      | cons job rest =>
          have hnext : (pastAt g (fresh capacity guest) s (k + 1)).taken =
              (pastAt g (fresh capacity guest) s k).taken ++ [job] := by
            rw [pastAt_succ, ← takes_of_selecting hselecting hjobs, hjob]
            rfl
          refine ⟨k + 1, by omega, ?_⟩
          rw [hnext, List.length_append, List.length_singleton]
          omega

/-- What is due begins, unless a panic ends the interpreter. -/
theorem begins (hfair : Fair g (fresh capacity guest) s)
    (hsound : ∀ n, isCrashed (moment g (fresh capacity guest) s n).interpreter = false) {n : Nat}
    {request : Request} (hdue : request ∈ (pastAt g (fresh capacity guest) s n).due) :
    ∃ m, n ≤ m ∧ request ∈ (pastAt g (fresh capacity guest) s m).begun := by
  by_cases hstops : ∃ m, n ≤ m ∧ (moment g (fresh capacity guest) s m).interpreter = .stopped
  · obtain ⟨m, hle, hstopped⟩ := hstops
    obtain ⟨hentered, -, -⟩ := pastAt_prefix g (fresh capacity guest) s hle
    exact ⟨m, hle, (kept g capacity guest s m).begun_of_stopped hstopped (due_subset hentered hdue)⟩
  · -- an interpreter that neither stops nor crashes is free to take a job again and again
    have hselects : ∀ m, n ≤ m →
        ∃ k, m ≤ k ∧ (moment g (fresh capacity guest) s k).interpreter = .selecting := by
      intro m hle
      obtain ⟨k, hk, hfree⟩ := hfair.frees m
      refine ⟨k, hk, ?_⟩
      have hcrashed := hsound k
      cases hinterpreter : (moment g (fresh capacity guest) s k).interpreter with
      | selecting => rfl
      | stopped => exact absurd ⟨k, Nat.le_trans hle hk, hinterpreter⟩ hstops
      | crashed =>
          rw [hinterpreter] at hcrashed
          cases hcrashed
      | executing | executed | completed | counted | draining | passing | invoking =>
          rw [hinterpreter] at hfree
          cases hfree
    obtain ⟨m, hle, hmany⟩ := hfair.takes_many hselects (Nat.le_refl _)
    refine ⟨m, hle, List.mem_filterMap.2 ⟨.execute request, ?_, rfl⟩⟩
    -- the jobs taken by then are the first ones that have entered, at least as many as at first
    obtain ⟨hentered, -, -⟩ := pastAt_prefix g (fresh capacity guest) s hle
    have hinitial : (pastAt g (fresh capacity guest) s m).taken <+:
        (pastAt g (fresh capacity guest) s m).entered := by
      rw [(kept g capacity guest s m).chronicle.passed]
      exact List.prefix_append _ _
    exact (List.prefix_of_prefix_length_le hentered hinitial hmany).subset (mem_entered_of_due hdue)

/-- What is due finishes and is answered, unless a panic ends the interpreter. -/
theorem answers (hfair : Fair g (fresh capacity guest) s)
    (hsound : ∀ n, isCrashed (moment g (fresh capacity guest) s n).interpreter = false) {n : Nat}
    {request : Request} (hdue : request ∈ (pastAt g (fresh capacity guest) s n).due) :
    ∃ m call result, n ≤ m ∧ (request, result) ∈ (pastAt g (fresh capacity guest) s m).finished ∧
      (moment g (fresh capacity guest) s m).bridge.calls.get? request.id = some call ∧
      call.request = request ∧
      (call.stage = .answered result ∨ call.stage = .ended (.ok result) ∨ call.isTimedOut = true) := by
  obtain ⟨m, hle, hbegun⟩ := hfair.begins hsound hdue
  obtain ⟨k, hk, hfree⟩ := hfair.frees m
  obtain ⟨-, htaken, -⟩ := pastAt_prefix g (fresh capacity guest) s hk
  have hkept := kept g capacity guest s k
  obtain ⟨result, hfinished⟩ := hkept.finished_of_free hfree (htaken.filterMap _ |>.subset hbegun)
  obtain ⟨call, sent, hget, hrequest, hsent, hstage⟩ := hkept.answered_of_free hfree hfinished
  refine ⟨k, call, sent, by omega, hsent, hget, hrequest, ?_⟩
  exact hstage.imp_right fun hstage => hstage.imp_right And.left

end Fair
end ScriptHost.Host
