import ScriptHost.Lua.Run
import ScriptHost.Proofs.Host.Numbers
import ScriptHost.Proofs.Lua.Arguments

/-!
# Calls of host functions

A host function that takes a closure converts all its arguments, asks the desk for one thing, and
gives back or raises what the desk answers.  So a call of it is all or nothing: there is nothing
between the conversion and the answer at which it could stop half-way.
-/

namespace ScriptHost.Lua

open Desk (Grants Language State)
open Host (Continues Unused fresh run)

variable {f : HostFunction} {args : List Val} {heap : Heap} {ret : List Val → Heap → Program}
  {raise : Val → Heap → Program} {request : Desk.Ask Val}

/-- Arguments that cannot be converted are raised at once. -/
theorem callHost_of_error {message : String} (hask : f.ask heap args = .error message) :
    callHost f args heap ret raise = raise (.fault message) heap := by
  simp only [callHost, bind, Run.look, hask, Run.raise]

/-- What is asked for is asked of the desk, and its answer is all that the call goes by. -/
theorem callHost_of_ok (hask : f.ask heap args = .ok request) :
    callHost f args heap ret raise =
      .ask request fun answer => answerValues answer heap ret raise := by
  simp only [callHost, bind, Run.look, hask, Run.ask]

/-- A refusal is raised. -/
theorem answerValues_refused (why : Desk.Refusal) (heap : Heap) (ret : List Val → Heap → Program)
    (raise : Val → Heap → Program) :
    ∃ message, answerValues (.refused why) heap ret raise = raise (.fault message) heap := by
  cases why with
  | fault | urlMissing => exact ⟨_, rfl⟩

/-- What a call gives back when its request has been granted under a number: a timer is named. -/
def valuesOf : Ready.Target → List Val
  | .timer id => [Val.ofInt id]
  | .completion _ => []

theorem answerValues_granted (t : Ready.Target) (heap : Heap) (ret : List Val → Heap → Program)
    (raise : Val → Heap → Program) :
    answerValues (Desk.answerOf t) heap ret raise = ret (valuesOf t) heap := by
  cases t with
  | timer | completion => rfl

/-- **Calls that schedule are all or nothing.**  Take any moment of any run of a host at which its
interpreter goes on with a call of a host function that takes a closure, whatever the arguments.
Either the call raises a fault, at once or after the desk has refused it, and then the host is as it
was.  Or the call returns, and then exactly one closure is registered that was not, one of the
arguments, under a number that has had no closure, no timer and no operation at any moment of the
run; and exactly one timer of this number is live that was not, or exactly one operation has been
started that is to deliver this number.  Nothing else is touched. -/
theorem scheduling_call_is_all_or_nothing {l : Language Val Heap} {memory : Heap} {capacity : Nat}
    {events : List Event} (hf : f.schedules = true)
    (hcalls : Continues (callHost f args heap ret raise)
      (run l.guest (fresh capacity (State.start memory)) events).interpreter) :
    let start : Host (State Val Heap) := fresh capacity (State.start memory)
    let h := run l.guest start events
    let h' := run l.guest start (events ++ [.work])
    (∃ message, Continues (raise (.fault message) heap) h.interpreter ∨
      ∃ i, h' = { h with interpreter := i } ∧ Continues (raise (.fault message) heap) i) ∨
    ∃ request closure t, f.ask heap args = .ok request ∧ closure ∈ args ∧
      f.AsksFor closure request ∧ Unused l.guest start events t ∧
      Grants h.services h.guest.closures h'.services h'.guest.closures closure request t ∧
      Continues (ret (valuesOf t) heap) h'.interpreter := by
  intro start h h'
  cases hask : f.ask heap args with
  | error message =>
      rw [callHost_of_error hask] at hcalls
      exact .inl ⟨message, .inl hcalls⟩
  | ok request =>
      -- all that is left to the call is one step at the desk
      obtain ⟨closure, hmem, hasks⟩ := asksFor_of_ask hf hask
      rw [callHost_of_ok hask] at hcalls
      obtain ⟨i, hwork, hnext⟩ := Host.continues_next (l := l) hcalls
      replace hwork : h' = { h with
          services := (State.perform request (h.services, h.guest)).2.1
          guest := (State.perform request (h.services, h.guest)).2.2
          interpreter := i } :=
        (Host.run_append l.guest start events [.work]).trans hwork
      rcases Desk.refuses_or_grants (Host.onlyIssued_of_fresh l memory capacity events)
          (Host.numbered_of_fresh l memory capacity events) hasks.closure? with
        ⟨why, hrefused⟩ | ⟨t, hnot, hanswer, hgrants⟩
      · have hperform : State.perform request (h.services, h.guest) =
            (.refused why, h.services, h.guest) := by
          rw [State.perform, hrefused]
        obtain ⟨message, hraise⟩ := answerValues_refused why heap ret raise
        rw [hperform] at hwork hnext
        rw [hraise] at hnext
        exact .inl ⟨message, .inr ⟨i, hwork, hnext⟩⟩
      · have hunused := Host.unused_of_not_issued l memory capacity hnot
        have hreturn := answerValues_granted t heap ret raise
        refine .inr ⟨request, closure, t, rfl, hmem, hasks, hunused, ?_, ?_⟩
        · rw [hwork]
          exact hgrants
        · rw [hwork, ← hreturn, ← hanswer]
          exact hnext

/-- A program that ends registers nothing any more. -/
theorem closures_of_finish {F μ : Type} {l : Language F μ} {h : Host (State F μ)}
    {ending : Ready.Finish Value} {memory : μ}
    (hends : Continues (.finish ending memory) h.interpreter) :
    (run l.guest h [.work]).guest.closures = h.guest.closures := by
  obtain ⟨services, guest, bridge, channel, interpreter, held, bridges⟩ := h
  cases hends with
  | executing | invoking => rfl

/-- A language whose script sets a timer. -/
def timerSetters : Language Val Heap where
  execute _ heap :=
    callHost (.setTimer false) [.builtin .print] heap (fun _ heap => .finish (.returned .null) heap)
      fun _ heap => .finish (.raised "") heap
  call _ _ heap := .finish (.returned .null) heap

/-- The script is submitted, and the interpreter is about to call the function. -/
def timerAsked : List Event := [.submit false "" "" 0, .enter 1, .takeJob, .work]

/-- The script has its timer and its closure, under a number that nothing has had before. -/
theorem first_timer_is_granted :
    let start : Host (State Val Heap) := fresh 1 (State.start ⟨#[], #[], #[], [], ⟨1000, 16, 0⟩⟩)
    let h := run timerSetters.guest start (timerAsked ++ [.work])
    Unused timerSetters.guest start timerAsked (.timer 1) ∧ h.guest.closures.size = 1 ∧
      h.services.timers.isLive 1 = true := by
  intro start h
  refine ⟨?_, rfl, rfl⟩
  have hcalls : Continues (callHost (.setTimer false) [.builtin .print]
      ⟨#[], #[], #[], [], ⟨1000, 16, 0⟩⟩ (fun _ heap => .finish (.returned .null) heap)
      fun _ heap => .finish (.raised "") heap) (run timerSetters.guest start timerAsked).interpreter :=
    .executing _ _
  rcases scheduling_call_is_all_or_nothing rfl hcalls with
    ⟨message, hraises | ⟨i, hsame, -⟩⟩ | ⟨request, closure, t, hask, -, -, hunused, hgrants, -⟩
  · have hsize := congrArg Ready.Closures.size (closures_of_finish (l := timerSetters) hraises)
    cases hsize
  · have hsize := congrArg (fun h => h.guest.closures.size) hsame
    cases hsize
  · cases hask
    cases hgrants with
    | timer delay hregisters hcreates =>
        have hid := hcreates.number
        subst hid
        exact hunused

end ScriptHost.Lua
