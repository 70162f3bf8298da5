import ScriptHost.Desk.Program
import ScriptHost.Proofs.Host.Progress

/-!
# Panics of guest code

A panic of submitted source is a failed result, and a callback that raises is counted; in both cases
the interpreter goes on as if the code had returned.  A panic of a callback is not caught.  It ends
the interpreter, and nothing else does so unasked.

* As long as no callback has panicked, passes hand over all they take, every pass comes to its end,
  and every request that is due is executed and answered.
* Once a callback has panicked, guest code is never entered again: neither for the rest of the batch
  nor for the jobs in the channel (`backlog_lost_with_panic`).
-/

namespace ScriptHost.Host

open Desk (Language State)
open Guest (Request)
open Submission (History)

variable {σ : Type}

/-! ## The last visit -/

/-- The last two crossings of whole visits are those of the last visit. -/
theorem last_of_crossingsOf {visits : List Visit} {earlier : List Crossing} {errand : Errand}
    {ending : Ready.Finish Unit}
    (hlog : crossingsOf visits = earlier ++ [.enters errand, .leaves ending]) :
    ⟨errand, ending⟩ ∈ visits := by
  rcases List.eq_nil_or_concat visits with rfl | ⟨before, ⟨own, how⟩, rfl⟩
  · have hlength := congrArg List.length hlog
    simp [crossingsOf] at hlength
  · rw [List.concat_eq_append] at hlog ⊢
    rw [crossingsOf_concat, List.append_assoc] at hlog
    obtain ⟨-, hlast⟩ := List.append_inj' hlog rfl
    cases hlast
    exact List.mem_append_right _ (List.mem_singleton_self _)

/-- A log that ends where guest code is entered does not end with a visit. -/
theorem enters_ne_leaves {log earlier : List Crossing} {errand own : Errand}
    {ending : Ready.Finish Unit} :
    log ++ [.enters own] ≠ earlier ++ [.enters errand, .leaves ending] := by
  intro hlog
  have hlast := congrArg List.getLast? hlog
  simp at hlast

/-- The log ends with a callback that has panicked exactly if that has ended the interpreter. -/
theorem Logged.crashed_iff {log : List Crossing} {i : Interpreter σ} (hlogged : Logged log i)
    (message : String) : i = .crashed message ↔
      ∃ earlier c, log = earlier ++ [.enters (.callback c), .leaves (.panicked message)] := by
  obtain ⟨visits, hvisits⟩ := hlogged
  -- while the interpreter goes on, no visit was one that ends it
  have hharmless : (∀ v ∈ visits, v.isHarmless = true) →
      ∀ earlier c, crossingsOf visits ≠
        earlier ++ [.enters (.callback c), .leaves (.panicked message)] := by
    intro hall earlier c hlog
    have hpanicked := hall _ (last_of_crossingsOf hlog)
    cases hpanicked
  constructor
  · rintro rfl
    obtain ⟨rfl, earlier, c, rfl, -⟩ := hvisits
    exact ⟨crossingsOf earlier, c, by rw [crossingsOf_concat, List.append_assoc]; rfl⟩
  · rintro ⟨earlier, c, hlog⟩
    cases i with
    | executing =>
        rw [hvisits.2] at hlog
        exact absurd hlog enters_ne_leaves
    | invoking =>
        obtain ⟨-, own, rfl⟩ := hvisits
        exact absurd hlog enters_ne_leaves
    | crashed other =>
        obtain ⟨rfl, before, own, rfl, -⟩ := hvisits
        rw [crossingsOf_concat, List.append_assoc] at hlog
        obtain ⟨-, hlast⟩ := List.append_inj' hlog rfl
        cases hlast
        rfl
    | selecting | executed | completed | counted | draining | passing | stopped =>
        exact absurd (hvisits.2.symm.trans hlog) (hharmless hvisits.1 earlier c)

/-! ## After a panic -/

theorem isCrashed_iff (i : Interpreter σ) :
    isCrashed i = true ↔ ∃ message, i = .crashed message := by
  cases i with
  | crashed message => exact ⟨fun _ => ⟨message, rfl⟩, fun _ => rfl⟩
  | selecting | executing | executed | completed | counted | draining | passing | invoking
  | stopped => simp [isCrashed]

/-- An interpreter that is free has no pass under way. -/
theorem remaining_of_isFree {i : Interpreter σ} (hfree : isFree i = true) : remaining i = [] := by
  cases i with
  | selecting | stopped | crashed => rfl
  | executing | executed | completed | counted | draining | passing | invoking => cases hfree

/-- No job is taken any more. -/
theorem taken_of_crashed {g : Guest σ} {message : String} {later : List Event} :
    ∀ {h : Host σ} {past : History}, h.interpreter = .crashed message →
      (history g h past later).taken = past.taken := by
  induction later with
  | nil => exact fun _ => rfl
  | cons e later ih =>
      intro h past hcrashed
      have hnext : (react g h e).interpreter = .crashed message :=
        ((crosses g h e).crashed hcrashed).1
      have htakes : h.takes e = [] := by
        unfold takes
        split
        · rw [hcrashed]
        · rfl
      rw [history, ih hnext]
      show past.taken ++ h.takes e = past.taken
      rw [htakes, List.append_nil]

/-- A call whose job has entered does not end because the host has shut down. -/
theorem Chronicle.stage_ne_shutDown {g : Guest σ} {h : Host σ} {past : History}
    (hchronicle : Chronicle g h past) {id : Nat} {call : Submission.Call}
    (hget : h.bridge.calls.get? id = some call) (hentered : call.request ∈ past.requested) :
    call.stage ≠ .ended (.error .shutDown) := by
  intro hstage
  have hfate := (hchronicle.accounts.calls id call hget).2.2
  rw [Submission.Fate, hstage] at hfate
  rcases hfate with ⟨-, habsent⟩ | htimeout
  · exact habsent hentered
  · cases htimeout

/-- **Only the panic of a callback ends the interpreter unasked.**

At every moment the interpreter has crashed exactly if the last visit to guest code was that of a
callback which panicked.  It stays so, and guest code is never entered again.

Until then all that passes have taken has been handed over or is still to be, whatever has become of
the callbacks before; and no call whose job has entered ends with a shutdown.  In a fair run without
such a panic every pass comes to its end, and every request that has entered before the first job to
stop is executed, and its caller has the result unless it has given up. -/
theorem interpreter_survives_all_but_callback_panics (g : Guest σ) (capacity : Nat) (guest : σ) :
    let start := fresh capacity guest
    (∀ events,
      let h := Host.run g start events
      let past := history g start .empty events
      let log := crossed g start events
      (∀ message, h.interpreter = .crashed message ↔
        ∃ earlier c, log = earlier ++ [.enters (.callback c), .leaves (.panicked message)]) ∧
      (isCrashed h.interpreter = true → ∀ later, crossed g h later = [] ∧
        (history g start .empty (events ++ later)).begun = past.begun) ∧
      (isCrashed h.interpreter = false →
        gathered g start events = handed log ++ remaining h.interpreter) ∧
      (∀ id call, h.bridge.calls.get? id = some call → call.request ∈ past.requested →
        call.stage ≠ .ended (.error .shutDown))) ∧
    (∀ s, Fair g start s → (∀ n, isCrashed (moment g start s n).interpreter = false) → ∀ n,
      (∃ m, n ≤ m ∧ remaining (moment g start s m).interpreter = []) ∧
      ∀ request ∈ (pastAt g start s n).due, ∃ m call result, n ≤ m ∧
        (request, result) ∈ (pastAt g start s m).finished ∧
        (moment g start s m).bridge.calls.get? request.id = some call ∧ call.request = request ∧
        (call.stage = .answered result ∨ call.stage = .ended (.ok result) ∨
          call.isTimedOut = true)) := by
  intro start
  refine ⟨fun events => ?_, fun s hfair hsound n => ⟨?_, fun request hdue => hfair.answers hsound hdue⟩⟩
  · intro h past log
    have hchronicle : Chronicle g h past := (chronicle_fresh g capacity guest).run
    refine ⟨fun message => (logged g capacity guest events).crashed_iff message, ?_, ?_, ?_⟩
    · intro hcrashed later
      obtain ⟨message, hmessage⟩ := (isCrashed_iff _).1 hcrashed
      refine ⟨(run_crashed hmessage).2.2, ?_⟩
      rw [History.begun, history_append, taken_of_crashed hmessage]
      rfl
    · exact gathered_eq
    · exact fun id call hget hentered => hchronicle.stage_ne_shutDown hget hentered
  · obtain ⟨m, hle, hfree⟩ := hfair.frees n
    exact ⟨m, hle, remaining_of_isFree hfree⟩

/-- A language whose script asks for two timers and whose closures panic. -/
def brittle : Language Unit Unit where
  execute _ _ :=
    .ask (.setTimer () none false) fun _ =>
      .ask (.setTimer () none false) fun _ => .finish (.returned .null) ()
  call _ _ _ := .finish (.panicked "broken") ()

/-- A script is submitted and executed, and the interpreter goes on for ever. -/
def steady : Nat → Event
  | 0 => .submit false "" "" 0
  | 1 => .enter 1
  | 2 => .takeJob
  | n + 3 => if n % 2 = 0 then .work else .takeJob

/-- A free interpreter without jobs stays as it is. -/
theorem react_of_idle (g : Guest σ) {h : Host σ} (hselecting : h.interpreter = .selecting)
    (hjobs : h.channel.jobs = []) : react g h .work = h ∧ react g h .takeJob = h := by
  constructor
  · rw [react, work?, hselecting]
    rfl
  · rw [react, takeJob?, hselecting, Submission.Channel.take, hjobs]
    rfl

/-- After two dozen events nothing changes any more. -/
theorem moment_steady (n : Nat) :
    moment brittle.guest (fresh 1 (State.start ())) steady (n + 24) =
      moment brittle.guest (fresh 1 (State.start ())) steady 24 := by
  induction n with
  | zero => rw [Nat.zero_add]
  | succ n ih =>
      have hidle := react_of_idle brittle.guest
        (h := moment brittle.guest (fresh 1 (State.start ())) steady 24) rfl rfl
      have hsucc : n + 1 + 24 = n + 24 + 1 := by omega
      rw [hsucc, moment_succ, ih, steady]
      split
      · exact hidle.1
      · exact hidle.2

theorem fair_steady : Fair brittle.guest (fresh 1 (State.start ())) steady where
  works n := ⟨2 * n + 3, by omega, by simp [steady]⟩
  takes _ n := by
    refine ⟨2 * n + 24, by omega, ?_, ?_⟩
    · rw [moment_steady]
      rfl
    · have hodd : (2 * n + 21) % 2 ≠ 0 := by omega
      show (if (2 * n + 21) % 2 = 0 then Event.work else .takeJob) = .takeJob
      rw [if_neg hodd]
  leaves n _ := ⟨n + 24, by omega, by rw [moment_steady]; rfl⟩

/-- The request of a run without a panic is answered. -/
theorem steady_request_is_answered :
    let start := fresh 1 (State.start ())
    ∃ m call result, 3 ≤ m ∧
      (⟨1, "", "", 0⟩, result) ∈ (pastAt brittle.guest start steady m).finished ∧
      (moment brittle.guest start steady m).bridge.calls.get? 1 = some call ∧
      call.request = ⟨1, "", "", 0⟩ ∧
      (call.stage = .answered result ∨ call.stage = .ended (.ok result) ∨
        call.isTimedOut = true) := by
  intro start
  have hsound : ∀ n, isCrashed (moment brittle.guest start steady n).interpreter = false := by
    intro n
    by_cases hn : n < 24
    · have hfirst : ∀ n < 24, isCrashed (moment brittle.guest start steady n).interpreter = false := by
        decide
      exact hfirst n hn
    · obtain ⟨d, rfl⟩ := Nat.exists_eq_add_of_le' (Nat.le_of_not_lt hn)
      rw [moment_steady]
      rfl
  have hall := interpreter_survives_all_but_callback_panics brittle.guest 1 (State.start ())
  exact (hall.2 steady fair_steady hsound 3).2 ⟨1, "", "", 0⟩ List.mem_cons_self

/-- Both timers fire before the pass begins, and another request has entered by then. -/
def brittleMet : List Event :=
  [.submit false "" "" 0, .enter 1, .takeJob] ++ List.replicate 4 .work ++
    [.wakeTimer 1, .wakeTimer 2, .submit false "" "" 0, .enter 2] ++ List.replicate 9 .work

/-- **A callback that panics stops the interpreter.**  It was the first of two that the pass had
taken.  The other one is never handed over, the request in the channel is never executed, and the
next caller is told that the host has shut down. -/
theorem backlog_lost_with_panic :
    let g := brittle.guest
    let start := fresh 1 (State.start ())
    let h := Host.run g start brittleMet
    h.interpreter = .crashed "broken" ∧
      gathered g start brittleMet = [.firing 1, .firing 2] ∧
      (∀ later, handed (crossed g start brittleMet ++ crossed g h later) = [.firing 1]) ∧
      ⟨2, "", "", 0⟩ ∈ (history g start .empty brittleMet).due ∧
      (∀ later, ⟨2, "", "", 0⟩ ∉ (history g start .empty (brittleMet ++ later)).begun) ∧
      (Host.run g h [.submit false "" "" 0, .enter 3]).bridge.stage? 3 =
        some (.ended (.error .shutDown)) := by
  have hcrashed : (Host.run brittle.guest (fresh 1 (State.start ())) brittleMet).interpreter =
    .crashed "broken" := rfl
  have hlost : ∀ later, handed (crossed brittle.guest (fresh 1 (State.start ())) brittleMet ++
      crossed brittle.guest (Host.run brittle.guest (fresh 1 (State.start ())) brittleMet) later) =
        [.firing 1] := by
    intro later
    rw [(run_crashed hcrashed).2.2]
    rfl
  have hnever : ∀ later, (⟨2, "", "", 0⟩ : Request) ∉
      (history brittle.guest (fresh 1 (State.start ())) .empty (brittleMet ++ later)).begun := by
    intro later
    rw [history_append, History.begun, taken_of_crashed hcrashed]
    show _ ∉ [(⟨1, "", "", 0⟩ : Request)]
    simp
  exact ⟨hcrashed, rfl, hlost, List.mem_cons_of_mem _ List.mem_cons_self, hnever, rfl⟩

end ScriptHost.Host
