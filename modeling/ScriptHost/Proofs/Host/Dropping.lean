import ScriptHost.Proofs.Host.InFlight
import ScriptHost.Proofs.Host.Progress

/-!
# A host that is dropped

Whoever drops a host does not wait for its interpreter.  It is asked to stop, but only if the job for
it finds room in the channel; and it ends if no job can ever come any more, but only if no bridge is
left that one could come from.

An interpreter that has the job to stop before it, or has ended, never waits for further jobs
(`Doomed`), nor does one without bridges (`Abandoned`).  Any other one works off what is in the
channel (`exists_idle`) and then waits.
-/

namespace ScriptHost

open Guest (Code)
open Ready (Callback Finish)
open Submission (Channel Job)

/-- Code that never waits, with an ending that satisfies a property. -/
def Guest.Code.Ends {ω α : Type} (P : Finish α → Prop) : Code ω α → Prop
  | .finish ending => P ending
  | .step _ next => ∀ w, (next w).Ends P
  | .await _ _ => False

theorem Guest.Code.Ends.advance {ω α : Type} {P : Finish α → Prop} {code rest : Code ω α} {w w' : ω}
    (hends : code.Ends P) (hadvance : code.advance w = (some (.inr rest), w')) : rest.Ends P := by
  cases code with
  | finish ending => cases hadvance
  | step change next =>
      cases hadvance
      exact hends w
  | await ready next => cases hends

/-- The code of a guest comes to its end whatever it finds, and no callback panics. -/
structure Guest.AlwaysEnds {σ : Type} (g : Guest σ) : Prop where
  execute : ∀ request, (g.execute request).Ends fun _ => True
  invoke : ∀ c, (g.invoke c).Ends fun ending => ∀ message, ending ≠ .panicked message

namespace Host

variable {σ : Type} {g : Guest σ} {h : Host σ}

/-- The interpreter waits for further jobs: it is at its choice, no job is in the channel, and one may
still come. -/
def Waits (h : Host σ) : Prop :=
  h.interpreter = .selecting ∧ h.channel.jobs = [] ∧ h.isDisconnected = false

/-- The run is one in which bridges are cloned only from others: from that of the host, or from one of
those that are there besides. -/
def Clones (g : Guest σ) : Host σ → List Event → Prop
  | _, [] => True
  | h, e :: events =>
      (e = .cloneBridge → h.held = true ∨ 0 < h.bridges) ∧ Clones g (react g h e) events

/-! ## Interpreters that do not wait -/

/-- The interpreter has ended, or the job to stop is before it. -/
def Doomed (h : Host σ) : Prop := h.isRunning = false ∨ .stop ∈ h.channel.jobs

theorem Waits.not_doomed (hwaits : h.Waits) : ¬h.Doomed := by
  obtain ⟨hselecting, hjobs, -⟩ := hwaits
  rintro (hended | hstop)
  · rw [isRunning, hselecting] at hended
    cases hended
  · rw [hjobs] at hstop
    cases hstop

/-- An interpreter that has ended stays so. -/
theorem isRunning_react (g : Guest σ) {e : Event} (hended : h.isRunning = false) :
    (react g h e).isRunning = false := by
  have hsame : (react g h e).interpreter = h.interpreter := by
    by_cases hwork : e = .work
    · subst hwork
      show ((h.work? g).getD h).interpreter = _
      cases hinterpreter : h.interpreter with
      | stopped | crashed => simp only [work?, hinterpreter, Option.getD_none]
      | selecting | executing | executed | completed | counted | draining | passing | invoking =>
          rw [isRunning, hinterpreter] at hended
          cases hended
    · refine interpreter_react_of_busy g (fun hselecting => ?_) hwork
      rw [isRunning, hselecting] at hended
      cases hended
  rw [isRunning, hsame, ← isRunning]
  exact hended

theorem Doomed.react (hdoomed : h.Doomed) (g : Guest σ) (e : Event) : (Host.react g h e).Doomed := by
  rcases hdoomed with hended | hstop
  · exact .inl (isRunning_react g hended)
  · -- the job stays in the channel, unless the interpreter takes it
    have hin : Job.stop ∈ h.takes e ++ (Host.react g h e).channel.jobs :=
      flow g h e ▸ List.mem_append_left _ hstop
    refine (List.mem_append.1 hin).imp_left fun htakes => ?_
    by_cases hjob : e = .takeJob
    · subst hjob
      rcases takeJob_cases g h with ⟨hnone, -⟩ | ⟨job, -, htaken, -, -, hnext⟩
      · rw [hnone] at htakes
        cases htakes
      · rw [htaken, List.mem_singleton] at htakes
        subst htakes
        rw [isRunning, Host.react, hnext]
        rfl
    · rw [takes_eq_nil h hjob] at htakes
      cases htakes

theorem Doomed.run {events : List Event} :
    ∀ {h : Host σ}, h.Doomed → (Host.run g h events).Doomed := by
  induction events with
  | nil => exact fun hdoomed => hdoomed
  | cons e events ih => exact fun hdoomed => ih (hdoomed.react g e)

/-- The host has been dropped, and no bridge is left. -/
def Abandoned (h : Host σ) : Prop := h.held = false ∧ h.bridges = 0

theorem Waits.not_abandoned (hwaits : h.Waits) : ¬h.Abandoned := by
  obtain ⟨-, hjobs, hconnected⟩ := hwaits
  rintro ⟨hheld, hbridges⟩
  simp [isDisconnected, hjobs, hheld, hbridges] at hconnected

theorem held_stop (h : Host σ) : h.stop.held = h.held ∧ h.stop.bridges = h.bridges := by
  rw [stop]
  split <;> exact ⟨rfl, rfl⟩

/-- The steps of the interpreter leave the bridges alone. -/
theorem Works.held {h' : Host σ} {finished : List (Guest.Request × Submission.Result)}
    (hworks : Works g h finished h') : h'.held = h.held ∧ h'.bridges = h.bridges := by
  cases hworks <;> exact ⟨rfl, rfl⟩

theorem held_takeJob (g : Guest σ) (h : Host σ) :
    ((h.takeJob? g).getD h).held = h.held ∧ ((h.takeJob? g).getD h).bridges = h.bridges := by
  unfold takeJob?
  split <;> exact ⟨rfl, rfl⟩

/-- Without a bridge there is none to clone. -/
theorem Abandoned.react (habandoned : h.Abandoned) (g : Guest σ) {e : Event}
    (hclones : e = .cloneBridge → h.held = true ∨ 0 < h.bridges) :
    (Host.react g h e).Abandoned := by
  obtain ⟨hheld, hbridges⟩ := habandoned
  have hsame {h' : Host σ} (hh' : h'.held = h.held ∧ h'.bridges = h.bridges) : h'.Abandoned :=
    ⟨hh'.1.trans hheld, hh'.2.trans hbridges⟩
  cases e with
  | cloneBridge =>
      rcases hclones rfl with hown | hother
      · rw [hheld] at hown
        cases hown
      · omega
  | dropBridge => exact ⟨hheld, by show h.bridges - 1 = 0; omega⟩
  | work => exact hsame (works g h).held
  | takeJob => exact hsame (held_takeJob g h)
  | takeToken =>
      refine hsame ?_
      simp only [Host.react, takeToken?]
      split <;> exact ⟨rfl, rfl⟩
  | disconnect =>
      refine hsame ?_
      simp only [Host.react, disconnect?]
      split
      · split <;> exact ⟨rfl, rfl⟩
      · exact ⟨rfl, rfl⟩
  | stop => exact hsame h.held_stop
  | conclude =>
      rw [Host.react, conclude]
      split
      · exact ⟨hheld, hbridges⟩
      · exact ⟨rfl, hbridges⟩
  | drop =>
      rw [Host.react, Host.drop, hheld]
      exact ⟨hheld, hbridges⟩
  | submit | enter | giveUp | collect | elapse | wakeTimer | cancelTimer | begin | reply
  | giveUpOperation | deliver | retire | offer | signal | discard | tearDown =>
      exact ⟨hheld, hbridges⟩

theorem Abandoned.run {events : List Event} : ∀ {h : Host σ}, h.Abandoned → Clones g h events →
    (Host.run g h events).Abandoned := by
  induction events with
  | nil => exact fun habandoned _ => habandoned
  | cons e events ih => exact fun habandoned hclones => ih (habandoned.react g hclones.1) hclones.2

/-! ## The drop -/

/-- The channel of a running interpreter is full, without a job to stop, and a bridge is left besides
that of the host. -/
structure Unheeding (h : Host σ) : Prop where
  running : h.isRunning = true
  full : h.channel.capacity ≤ h.channel.jobs.length
  unasked : .stop ∉ h.channel.jobs
  bridged : 0 < h.bridges

theorem drop_cases (hheld : h.held = true) :
    h.drop.held = false ∧ h.drop.bridges = h.bridges ∧ h.drop.interpreter = h.interpreter ∧
      h.drop.channel.jobs = h.channel.jobs ++ h.entry .stop := by
  refine ⟨?_, ?_, ?_, ?_⟩
  · rw [drop, if_pos hheld]
  · rw [drop, if_pos hheld]
    exact h.held_stop.2
  · rw [drop, if_pos hheld]
    exact interpreter_stop h
  · rw [jobs_drop, enters, if_pos hheld]

/-- The request to stop gets through unless the channel is full or nobody takes jobs any more. -/
theorem entry_stop (hattended : IsAttended h) (hrunning : h.isRunning = true) :
    h.entry .stop = if h.channel.capacity ≤ h.channel.jobs.length then [] else [.stop] := by
  have htaken : h.channel.attended = true := hattended.trans hrunning
  rw [entry, Channel.send, htaken, if_neg (by decide)]
  by_cases hfull : h.channel.capacity ≤ h.channel.jobs.length
  · rw [if_pos hfull, if_pos hfull]
  · rw [if_neg hfull, if_neg hfull]

/-- Unless the host is unheeding, its interpreter stops after the drop. -/
theorem unheeding_of_drop (hattended : IsAttended h) (hheld : h.held = true)
    (hdoomed : ¬h.drop.Doomed) (habandoned : ¬h.drop.Abandoned) : h.Unheeding := by
  obtain ⟨hdropped, hbridges, hinterpreter, hjobs⟩ := drop_cases hheld
  have hrunning : h.isRunning = true := by
    refine Bool.not_eq_false _ ▸ fun hended => hdoomed (.inl ?_)
    rw [isRunning, hinterpreter, ← isRunning]
    exact hended
  have hentry := entry_stop hattended hrunning
  have hfull : h.channel.capacity ≤ h.channel.jobs.length := by
    refine Decidable.not_not.1 fun hroom => hdoomed (.inr ?_)
    rw [hjobs, hentry, if_neg hroom]
    exact List.mem_append_right _ (List.mem_singleton_self _)
  refine ⟨hrunning, hfull, fun hstop => hdoomed (.inr ?_), ?_⟩
  · rw [hjobs]
    exact List.mem_append_left _ hstop
  · refine Nat.pos_of_ne_zero fun hnone => habandoned ⟨hdropped, hbridges.trans hnone⟩

/-! ## Working off the channel -/

/-- Guest code that the interpreter runs comes to its end. -/
def Proceeds : Interpreter σ → Prop
  | .executing _ _ code => code.Ends fun _ => True
  | .invoking code _ _ => code.Ends fun ending => ∀ message, ending ≠ .panicked message
  | .crashed _ => False
  | _ => True

theorem proceeds_work (hg : g.AlwaysEnds) (hproceeds : Proceeds h.interpreter) :
    Proceeds ((h.work? g).getD h).interpreter := by
  obtain ⟨services, guest, bridge, channel, interpreter, held, bridges⟩ := h
  cases interpreter with
  | executing request since code =>
      have hends : code.Ends fun _ => True := hproceeds
      rcases hadvance : code.advance (services, guest) with ⟨_ | ending | rest, services', guest'⟩ <;>
        simp only [work?, hadvance]
      · exact hends
      · trivial
      · exact hends.advance hadvance
  | invoking code rest counts =>
      have hends : code.Ends fun ending => ∀ message, ending ≠ .panicked message := hproceeds
      rcases hadvance : code.advance (services, guest) with ⟨_ | ending | next, services', guest'⟩
      · simp only [work?, hadvance]
        exact hends
      · obtain ⟨rfl, -⟩ := Code.advance_ending hadvance
        cases ending with
        | returned result | raised message => trivial
        | panicked message => exact absurd rfl (hends message)
      · simp only [work?, hadvance]
        exact hends.advance hadvance
  | passing rest counts =>
      cases rest with
      | nil => trivial
      | cons c rest => exact hg.invoke c
  | completed request result =>
      simp only [work?]
      split <;> trivial
  | selecting | executed | counted | draining | stopped => trivial
  | crashed => cases hproceeds

theorem proceeds_react (hg : g.AlwaysEnds) (hproceeds : Proceeds h.interpreter) (e : Event) :
    Proceeds (react g h e).interpreter := by
  rcases interpreter_react g h e with rfl | rfl | hsame | ⟨-, hnext | hnext⟩
  · exact proceeds_work hg hproceeds
  · rcases takeJob_cases g h with ⟨-, hsame⟩ | ⟨job, -, -, -, -, hnext⟩
    · rw [react, hsame]
      exact hproceeds
    · rw [react, hnext]
      cases job with
      | execute request => exact hg.execute request
      | releaseClosures | stop => trivial
  · rw [hsame]
    exact hproceeds
  · rw [hnext]
    trivial
  · rw [hnext]
    trivial

theorem proceeds_run (hg : g.AlwaysEnds) {events : List Event} :
    ∀ {h : Host σ}, Proceeds h.interpreter → Proceeds (Host.run g h events).interpreter := by
  induction events with
  | nil => exact fun hproceeds => hproceeds
  | cons e events ih => exact fun hproceeds => ih (proceeds_react hg hproceeds e)

/-- The interpreter gets to its choice by its own work. -/
def Selects (g : Guest σ) (h : Host σ) : Prop :=
  ∃ n, (Host.run g h (List.replicate n .work)).interpreter = .selecting

theorem Selects.of_work (hselects : Selects g ((h.work? g).getD h)) : Selects g h := by
  obtain ⟨n, hselecting⟩ := hselects
  exact ⟨n + 1, hselecting⟩

/-- Work leaves jobs and bridges alone. -/
theorem run_work (g : Guest σ) (n : Nat) : ∀ h : Host σ,
    (Host.run g h (List.replicate n .work)).channel.jobs = h.channel.jobs ∧
      (Host.run g h (List.replicate n .work)).bridges = h.bridges := by
  induction n with
  | zero => exact fun h => ⟨rfl, rfl⟩
  | succ n ih =>
      intro h
      obtain ⟨hjobs, hbridges⟩ := ih (react g h .work)
      exact ⟨hjobs.trans (works g h).jobs, hbridges.trans (works g h).held.2⟩

theorem selects_invoking {rest : List Callback} {code : Code (Services × σ) Ready.Invocation}
    (hnext : ∀ (h : Host σ) counts, h.interpreter = .passing rest counts → Selects g h) :
    ∀ {h : Host σ} {counts : Ready.PassCounts},
      (code.Ends fun ending => ∀ message, ending ≠ .panicked message) →
        h.interpreter = .invoking code rest counts → Selects g h := by
  induction code with
  | finish ending =>
      intro h counts hends hinterpreter
      refine .of_work ?_
      cases ending with
      | returned result =>
          simp only [work?, hinterpreter, Code.advance, Option.getD_some]
          exact hnext _ _ rfl
      | raised message =>
          simp only [work?, hinterpreter, Code.advance, Option.getD_some]
          exact hnext _ _ rfl
      | panicked message => exact absurd rfl (hends message)
  | step change next ih =>
      intro h counts hends hinterpreter
      refine .of_work ?_
      simp only [work?, hinterpreter, Code.advance, Option.getD_some]
      exact ih _ (hends _) rfl
  | await => exact fun hends => hends.elim

theorem selects_passing (hg : g.AlwaysEnds) {rest : List Callback} :
    ∀ (h : Host σ) counts, h.interpreter = .passing rest counts → Selects g h := by
  induction rest with
  | nil =>
      intro h counts hinterpreter
      refine .of_work ⟨0, ?_⟩
      simp only [work?, hinterpreter]
      rfl
  | cons c rest ih =>
      intro h counts hinterpreter
      have hnext : ((h.work? g).getD h).interpreter = .invoking (g.invoke c) rest counts := by
        simp only [work?, hinterpreter]
        rfl
      exact .of_work (selects_invoking ih (hg.invoke c) hnext)

theorem selects_draining (hg : g.AlwaysEnds) (hinterpreter : h.interpreter = .draining) :
    Selects g h := by
  have hnext : ((h.work? g).getD h).interpreter = .passing h.services.queue.drain.1 .zero := by
    simp only [work?, hinterpreter]
    rfl
  exact .of_work (selects_passing hg _ .zero hnext)

theorem selects_counted (hg : g.AlwaysEnds) {request : Guest.Request} {result : Submission.Result}
    (hinterpreter : h.interpreter = .counted request result) : Selects g h := by
  refine .of_work (selects_draining hg ?_)
  simp only [work?, hinterpreter]
  rfl

theorem selects_completed (hg : g.AlwaysEnds) {request : Guest.Request} {result : Submission.Result}
    (hinterpreter : h.interpreter = .completed request result) : Selects g h := by
  have hnext : ((h.work? g).getD h).interpreter = .counted request result := by
    simp only [work?, hinterpreter]
    split <;> rfl
  exact .of_work (selects_counted hg hnext)

theorem selects_executed (hg : g.AlwaysEnds) {request : Guest.Request} {result : Submission.Result}
    (hinterpreter : h.interpreter = .executed request result) : Selects g h := by
  have hnext : ((h.work? g).getD h).interpreter = .completed request result := by
    simp only [work?, hinterpreter]
    rfl
  exact .of_work (selects_completed hg hnext)

theorem selects_executing (hg : g.AlwaysEnds) {request : Guest.Request} {since : Nat}
    {code : Code (Services × σ) Value} :
    ∀ {h : Host σ}, (code.Ends fun _ => True) →
      h.interpreter = .executing request since code → Selects g h := by
  induction code with
  | finish ending =>
      intro h hends hinterpreter
      refine .of_work ?_
      simp only [work?, hinterpreter, Code.advance, Option.getD_some]
      exact selects_executed hg rfl
  | step change next ih =>
      intro h hends hinterpreter
      refine .of_work ?_
      simp only [work?, hinterpreter, Code.advance, Option.getD_some]
      exact ih _ (hends _) rfl
  | await => exact fun hends => hends.elim

theorem selects_of_proceeds (hg : g.AlwaysEnds) (hproceeds : Proceeds h.interpreter)
    (hrunning : h.isRunning = true) : Selects g h := by
  cases hinterpreter : h.interpreter with
  | selecting => exact ⟨0, hinterpreter⟩
  | executing request since code =>
      rw [hinterpreter] at hproceeds
      exact selects_executing hg hproceeds hinterpreter
  | executed request result => exact selects_executed hg hinterpreter
  | completed request result => exact selects_completed hg hinterpreter
  | counted request result => exact selects_counted hg hinterpreter
  | draining => exact selects_draining hg hinterpreter
  | passing rest counts => exact selects_passing hg h counts hinterpreter
  | invoking code rest counts =>
      rw [hinterpreter] at hproceeds
      exact selects_invoking (selects_passing hg) hproceeds hinterpreter
  | stopped | crashed =>
      rw [isRunning, hinterpreter] at hrunning
      cases hrunning

/-- An interpreter gets to its choice and takes the next job, if it is not the one to stop. -/
theorem exists_taken (hg : g.AlwaysEnds) {job : Job} {rest : List Job}
    (hjobs : h.channel.jobs = job :: rest) (hstop : job ≠ .stop) (hproceeds : Proceeds h.interpreter)
    (hrunning : h.isRunning = true) :
    ∃ next, (∀ e ∈ next, e = .work ∨ e = .takeJob) ∧
      (Host.run g h next).channel.jobs = rest ∧ (Host.run g h next).isRunning = true ∧
      (Host.run g h next).bridges = h.bridges := by
  obtain ⟨n, hselecting⟩ := selects_of_proceeds hg hproceeds hrunning
  obtain ⟨hsame, hbridges⟩ := run_work g n h
  have hrun : Host.run g h (List.replicate n .work ++ [.takeJob]) =
      react g (Host.run g h (List.replicate n .work)) .takeJob := by
    rw [Host.run, List.foldl_append]
    rfl
  refine ⟨List.replicate n .work ++ [.takeJob], fun e he => ?_, ?_⟩
  · rcases List.mem_append.1 he with he | he
    · exact .inl (List.eq_of_mem_replicate he)
    · exact .inr (List.mem_singleton.1 he)
  · rw [hrun]
    generalize Host.run g h (List.replicate n .work) = k at hselecting hsame hbridges
    rw [hjobs] at hsame
    have htakes := takes_of_selecting hselecting hsame
    rcases takeJob_cases g k with ⟨hnone, -⟩ | ⟨own, -, htaken, hfirst, -, hnext⟩
    · rw [htakes] at hnone
      cases hnone
    · rw [htakes] at htaken
      cases htaken
      rw [hsame] at hfirst
      refine ⟨(List.cons.inj hfirst).2.symm, ?_, (held_takeJob g k).2.trans hbridges⟩
      rw [isRunning, react, hnext]
      cases job with
      | execute | releaseClosures => rfl
      | stop => exact absurd rfl hstop

/-- An interpreter works off its channel, job by job, if none of them is the one to stop. -/
theorem exists_idle (hg : g.AlwaysEnds) {jobs : List Job} :
    ∀ {h : Host σ}, h.channel.jobs = jobs → .stop ∉ jobs → Proceeds h.interpreter →
      h.isRunning = true →
      ∃ later, (∀ e ∈ later, e = .work ∨ e = .takeJob) ∧
        (Host.run g h later).interpreter = .selecting ∧ (Host.run g h later).channel.jobs = [] ∧
        (Host.run g h later).bridges = h.bridges := by
  induction jobs with
  | nil =>
      intro h hjobs _ hproceeds hrunning
      obtain ⟨n, hselecting⟩ := selects_of_proceeds hg hproceeds hrunning
      obtain ⟨hsame, hbridges⟩ := run_work g n h
      exact ⟨_, fun e he => .inl (List.eq_of_mem_replicate he), hselecting, hsame.trans hjobs, hbridges⟩
  | cons job rest ih =>
      intro h hjobs hunasked hproceeds hrunning
      rw [List.mem_cons, not_or] at hunasked
      obtain ⟨next, hnext, hrest, hon, hkept⟩ :=
        exists_taken hg hjobs (Ne.symm hunasked.1) hproceeds hrunning
      obtain ⟨later, hlater, hselecting, hempty, hleft⟩ :=
        ih hrest hunasked.2 (proceeds_run hg hproceeds) hon
      have hrun : Host.run g h (next ++ later) = Host.run g (Host.run g h next) later := by
        rw [Host.run, List.foldl_append]
        rfl
      refine ⟨next ++ later, fun e he => (List.mem_append.1 he).elim (hnext e) (hlater e), ?_⟩
      rw [hrun]
      exact ⟨hselecting, hempty, hleft.trans hkept⟩

theorem attended_run (g : Guest σ) (events : List Event) :
    ∀ {h : Host σ}, IsAttended h → IsAttended (Host.run g h events) := by
  induction events with
  | nil => exact fun hattended => hattended
  | cons e events ih => exact fun hattended => ih (hattended.react g e)

/-- Where no bridge is cloned, none is cloned but from another. -/
theorem clones_of_ne {events : List Event} :
    ∀ {h : Host σ}, (∀ e ∈ events, e ≠ .cloneBridge) → Clones g h events := by
  induction events with
  | nil => exact fun _ => trivial
  | cons e events ih =>
      exact fun hnone => ⟨fun he => absurd he (hnone e List.mem_cons_self),
        ih fun other hother => hnone other (List.mem_cons_of_mem e hother)⟩

/-- **Dropping a host stops its interpreter unless the channel is full and a bridge survives.**

Let a host be dropped in any state that a run can lead to.  If its interpreter is ever found waiting
for further jobs after that, whatever has happened in between, then it was running at the drop, the
channel was full without a job to stop in it, and another bridge than that of the host was left.  And
if all this is so, then it is found waiting in some run, as long as guest code ends and no callback
panics. -/
theorem waits_after_drop_iff (g : Guest σ) (capacity : Nat) (guest : σ) (events : List Event)
    (hheld : (Host.run g (fresh capacity guest) events).held = true) :
    let h := Host.run g (fresh capacity guest) events
    let dropped := react g h .drop
    ((∃ later, Clones g dropped later ∧ (Host.run g dropped later).Waits) → h.Unheeding) ∧
    (g.AlwaysEnds → h.Unheeding →
      ∃ later, Clones g dropped later ∧ (Host.run g dropped later).Waits) := by
  intro h dropped
  have hattended : IsAttended h := attended_run g events rfl
  obtain ⟨hdropped, hbridges, hinterpreter, hjobs⟩ := drop_cases hheld
  refine ⟨?_, fun hg hunheeding => ?_⟩
  · rintro ⟨later, hclones, hwaits⟩
    refine unheeding_of_drop hattended hheld (fun hdoomed => ?_) fun habandoned => ?_
    · exact hwaits.not_doomed hdoomed.run
    · exact hwaits.not_abandoned (habandoned.run hclones)
  · -- the request to stop finds no room
    rw [entry_stop hattended hunheeding.running, if_pos hunheeding.full, List.append_nil] at hjobs
    have hproceeds : Proceeds dropped.interpreter := by
      show Proceeds h.drop.interpreter
      rw [hinterpreter]
      exact proceeds_run hg trivial
    have hrunning : dropped.isRunning = true := by
      show h.drop.isRunning = true
      rw [isRunning, hinterpreter, ← isRunning]
      exact hunheeding.running
    obtain ⟨later, hevents, hselecting, hempty, hleft⟩ :=
      exists_idle hg hjobs hunheeding.unasked hproceeds hrunning
    have hbridge : 0 < (Host.run g dropped later).bridges :=
      hleft.symm ▸ hbridges.symm ▸ hunheeding.bridged
    refine ⟨later, clones_of_ne fun e he => ?_, hselecting, hempty, ?_⟩
    · rcases hevents e he with rfl | rfl <;> simp
    · simp [isDisconnected, Nat.ne_of_gt hbridge]

/-- There is another bridge, one submission is executed, and the job of a second one has entered. -/
def busy : List Event :=
  [.cloneBridge, .submit false "return" "=submit" 1000, .enter 1, .takeJob,
    .submit false "return" "=submit" 1000, .enter 2]

theorem prompt_alwaysEnds : prompt.AlwaysEnds where
  execute _ := trivial
  invoke _ := by rintro message ⟨⟩

/-- With room for a second job the interpreter never waits once the host has been dropped; without it
the interpreter comes to wait. -/
theorem drop_with_room_stops :
    ((Host.run prompt (fresh 2 ()) busy).held = true ∧
      ¬∃ later, Clones prompt (Host.run prompt (fresh 2 ()) (busy ++ [.drop])) later ∧
        (Host.run prompt (Host.run prompt (fresh 2 ()) (busy ++ [.drop])) later).Waits) ∧
    (Host.run prompt (fresh 1 ()) busy).held = true ∧
      ∃ later, Clones prompt (Host.run prompt (fresh 1 ()) (busy ++ [.drop])) later ∧
        (Host.run prompt (Host.run prompt (fresh 1 ()) (busy ++ [.drop])) later).Waits := by
  have hroom : (Host.run prompt (fresh 2 ()) busy).held = true := rfl
  have hfull : (Host.run prompt (fresh 1 ()) busy).held = true := rfl
  refine ⟨⟨hroom, fun hwaits => ?_⟩, hfull, ?_⟩
  · have hunheeding := (waits_after_drop_iff prompt 2 () busy hroom).1 hwaits
    exact absurd hunheeding.full (by decide)
  · refine (waits_after_drop_iff prompt 1 () busy hfull).2 prompt_alwaysEnds ?_
    constructor
    case running => rfl
    case full => decide
    case unasked => decide
    case bridged => decide

/-- Without that room the request to stop is lost: the interpreter executes both submissions and waits
for more. -/
theorem drop_of_full_host_is_unheeded :
    let h := Host.run prompt (fresh 1 ()) (busy ++ [.drop, .work, .work, .work, .work, .work, .work,
      .takeJob, .work, .work, .work, .work, .work, .work])
    h.held = false ∧ h.bridge.stats.completed = 2 ∧ h.Waits :=
  ⟨rfl, rfl, rfl, rfl, rfl⟩

end Host
end ScriptHost
