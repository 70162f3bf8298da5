import ScriptHost.Proofs.Network.Closing
import ScriptHost.Proofs.Network.Completion
import ScriptHost.Proofs.Network.Wire

/-!
# What a reply comes to

Once the system has replied, an operation has one thing to do, and what it returns is decided
(`Conclusion.Returns`): whatever all others do in between, the operation stands somewhere on the way
from the reply to this return, or its task has been dropped (`Replied`).  Only an operation that
loses its connection tries to take a handle out, once, and it finds the handle unless somebody else
has taken it out before.

An operation that has found its handle knows that the handle has been opened, so from then on the
handle is open exactly as long as nobody has taken it out.
-/

namespace ScriptHost.Network

/-- The connection that an operation tries to take out of its table with a step, and whether it finds
it there. -/
def Act.attempt? : Act → Option (Nat × Bool)
  | .remove id found => some (id, found)
  | _ => none

/-- The connections that an operation has tried to take out. -/
def attempts (acts : List Act) : List (Nat × Bool) := acts.filterMap Act.attempt?

theorem attempts_snoc (acts : List Act) (act : Act) :
    attempts (acts ++ [act]) = attempts acts ++ act.attempt?.toList :=
  filterMap_snoc Act.attempt? acts act

theorem mem_attempts {acts : List Act} {id : Nat} {found : Bool} :
    (id, found) ∈ attempts acts ↔ .remove id found ∈ acts := by
  rw [attempts, List.mem_filterMap]
  constructor
  · rintro ⟨act, hmem, hattempt⟩
    cases act with
    | remove =>
        cases hattempt
        exact hmem
    | _ => cases hattempt
  · exact fun hmem => ⟨_, hmem, rfl⟩

/-- What an operation returns that has done what was left to do, and what it has tried to take out
for it. -/
inductive Conclusion.Returns : Conclusion → Result → List (Nat × Bool) → Prop where
  | settled (result : Result) : Returns (.settled result) result []
  | opens (kind : Kind) (outcome : Nat → Ready.Outcome) (id : Nat) :
      Returns (.opens kind outcome) (.ok (outcome id)) []
  | loses (id : Nat) (cause : IoFault) (found : Bool) :
      Returns (.loses id cause) (.error (.lost cause)) [(id, found)]

/-- An operation has heard nothing yet. -/
def Standing.IsAhead : Standing → Prop
  | (none, .none) | (some ⟨_, _, .spawned⟩, .none) | (some ⟨_, _, .waiting⟩, .waits _ _) => True
  | _ => False

/-- An operation has returned. -/
def Standing.IsBack : Standing → Prop
  | (some ⟨_, _, .finished _⟩, .none) | (some ⟨_, _, .queued⟩, .none) | (none, .leaving)
  | (none, .ended) => True
  | _ => False

/-- How far an operation has come with a reply, where it stands so. -/
inductive Replied (request : Request) (r : Reply) : List Act → Standing → Prop where
  | heard {acts : List Act} {o : Operation} (hresults : results acts = [])
      (hattempts : attempts acts = []) :
      Replied request r acts (some o, .heard (request.conclusion r))
  | drawn {acts : List Act} {o : Operation} {kind : Kind} {outcome : Nat → Ready.Outcome} {id : Nat}
      (hopens : request.conclusion r = .opens kind outcome) (hresults : results acts = [])
      (hattempts : attempts acts = []) :
      Replied request r acts (some o, .drawn kind id (outcome id))
  | losing {acts : List Act} {o : Operation} {id : Nat} {cause : IoFault}
      (hloses : request.conclusion r = .loses id cause) (hresults : results acts = [])
      (hattempts : attempts acts = [(id, true)]) :
      Replied request r acts (some o, .losing id cause)
  | ready {acts : List Act} {o : Operation} {result : Result}
      (hreturns : (request.conclusion r).Returns result (attempts acts))
      (hresults : results acts = []) :
      Replied request r acts (some o, .heard (.settled result))
  | returned {acts : List Act} {here : Standing} {result : Result}
      (hreturns : (request.conclusion r).Returns result (attempts acts))
      (hresults : results acts = [result]) (hback : here.IsBack) : Replied request r acts here
  | dropped {acts : List Act} {ran : Bool} (hresults : results acts = [])
      (hdropped : .drop ran ∈ acts) : Replied request r acts (none, .ended)

section

variable {acts : List Act} {here there : Standing} {act : Act} {request : Request} {r : Reply}
  {completion : Nat}

theorem results_snoc_of_none (acts : List Act) (h : act.result? = none) :
    results (acts ++ [act]) = results acts := by
  rw [results_snoc, h]
  exact List.append_nil _

theorem attempts_snoc_of_none (acts : List Act) (h : act.attempt? = none) :
    attempts (acts ++ [act]) = attempts acts := by
  rw [attempts_snoc, h]
  exact List.append_nil _

/-- An operation that has heard nothing has not returned and has tried to take nothing out. -/
theorem Course.ahead (h : Course acts here) (hahead : here.IsAhead) :
    results acts = [] ∧ attempts acts = [] ∧ ∀ r, .hear r ∉ acts := by
  induction h with
  | nil => exact ⟨rfl, rfl, fun _ hmem => by cases hmem⟩
  | snoc _ goes ih =>
      cases goes with
      | start | find | ask | watch =>
          obtain ⟨hresults, hattempts, hheard⟩ := ih trivial
          exact ⟨(results_snoc_of_none _ rfl).trans hresults,
            (attempts_snoc_of_none _ rfl).trans hattempts,
            fun r hmem => hheard r (by simpa using hmem)⟩
      | _ => exact hahead.elim

/-- Whoever has returned does not return again and takes nothing out. -/
theorem Goes.of_back (goes : Goes here act there) (hback : here.IsBack) :
    there.IsBack ∧ act.result? = none ∧ act.attempt? = none := by
  cases goes with
  | queue | uncount | finish | drop => exact ⟨trivial, rfl, rfl⟩
  | _ => exact hback.elim

/-- One step after a reply. -/
theorem Replied.goes (h : Replied request r acts here) (goes : Goes here act there) :
    Replied request r (acts ++ [act]) there := by
  cases h with
  | returned hreturns hresults hback =>
      obtain ⟨hafter, hresult, hattempt⟩ := goes.of_back hback
      rw [← attempts_snoc_of_none _ hattempt] at hreturns
      exact .returned hreturns ((results_snoc_of_none _ hresult).trans hresults) hafter
  | dropped hresults hdropped => cases goes
  | heard hresults hattempts =>
      generalize hconclusion : request.conclusion r = conclusion at goes
      cases goes with
      | draw id =>
          exact .drawn hconclusion ((results_snoc_of_none _ rfl).trans hresults)
            ((attempts_snoc_of_none _ rfl).trans hattempts)
      | remove =>
          refine .losing hconclusion ((results_snoc_of_none _ rfl).trans hresults) ?_
          rw [attempts_snoc, hattempts]
          rfl
      | miss =>
          refine .ready ?_ ((results_snoc_of_none _ rfl).trans hresults)
          rw [attempts_snoc, hattempts, hconclusion]
          exact .loses _ _ false
      | settle =>
          refine .returned ?_ (by rw [results_snoc, hresults]; rfl) trivial
          rw [attempts_snoc, hattempts, hconclusion]
          exact .settled _
      | drop =>
          exact .dropped ((results_snoc_of_none _ rfl).trans hresults)
            (List.mem_append_right _ (List.mem_singleton_self _))
  | drawn hopens hresults hattempts =>
      cases goes with
      | enter =>
          refine .ready ?_ ((results_snoc_of_none _ rfl).trans hresults)
          rw [attempts_snoc_of_none _ rfl, hattempts, hopens]
          exact .opens _ _ _
      | drop hsteady => cases hsteady
  | losing hloses hresults hattempts =>
      cases goes with
      | signal =>
          refine .ready ?_ ((results_snoc_of_none _ rfl).trans hresults)
          rw [attempts_snoc_of_none _ rfl, hattempts, hloses]
          exact .loses _ _ true
      | drop hsteady => cases hsteady
  | ready hreturns hresults =>
      cases goes with
      | settle =>
          refine .returned ?_ (by rw [results_snoc, hresults]; rfl) trivial
          rwa [attempts_snoc_of_none _ rfl]
      | drop =>
          exact .dropped ((results_snoc_of_none _ rfl).trans hresults)
            (List.mem_append_right _ (List.mem_singleton_self _))

/-- An operation that has heard a reply stands somewhere on the way from it. -/
theorem Course.replied (h : Course acts here) (hstarted : .start completion request ∈ acts)
    (hheard : .hear r ∈ acts) : Replied request r acts here := by
  induction h with
  | nil => cases hheard
  | @snoc acts here there act h goes ih =>
      -- the start comes first, so it has been made when anything is heard
      have hbefore : .start completion request ∈ acts := by
        refine (List.mem_append.1 hstarted).resolve_right fun hact => ?_
        rw [List.mem_singleton] at hact
        subst hact
        cases goes with
        | start => exact (h.ahead trivial).2.2 r (by simpa using hheard)
      rcases List.mem_append.1 hheard with hearlier | hact
      · exact (ih hbefore hearlier).goes goes
      · rw [List.mem_singleton] at hact
        subst hact
        obtain ⟨hrecord, -⟩ := h.record_of_start hbefore
        cases goes with
        | hear =>
            cases hrecord with
            | waits =>
                obtain ⟨hresults, hattempts, -⟩ := h.ahead trivial
                exact .heard ((results_snoc_of_none _ rfl).trans hresults)
                  ((attempts_snoc_of_none _ rfl).trans hattempts)

/-- What an operation returns after a reply is decided by the reply. -/
theorem Replied.returns {result : Result} (h : Replied request r acts here)
    (hresults : results acts = [result]) :
    (request.conclusion r).Returns result (attempts acts) := by
  cases h with
  | returned hreturns hreturned =>
      cases hreturned.symm.trans hresults
      exact hreturns
  | heard hnone | drawn _ hnone | losing _ hnone | ready _ hnone | dropped hnone =>
      cases hnone.symm.trans hresults

end

namespace Shared

variable {α : Type} {s t : Shared α} {events : List Event} {settings : NetworkSettings}
  {op completion id : Nat} {request : Request} {r : Reply} {kind : Kind}

theorem Run.replied (h : Run (start settings) events s)
    (hstarted : .op op (.start completion request) ∈ events) (hheard : .op op (.hear r) ∈ events) :
    Replied request r (acts op events) (s.standing op) :=
  (h.course op).replied ((mem_acts ..).2 hstarted) ((mem_acts ..).2 hheard)

/-- An operation that has heard a reply and has not been dropped can come to its end by its own
steps. -/
theorem Run.canEnd_of_hear (h : Run (start settings) events s)
    (hstarted : .op op (.start completion request) ∈ events) (hheard : .op op (.hear r) ∈ events)
    (hkept : ∀ ran, .op op (.drop ran) ∉ events) : s.CanEnd op := by
  have hnot : ¬(s.standing op).IsAhead := fun hahead =>
    ((h.course op).ahead hahead).2.2 r ((mem_acts ..).2 hheard)
  rcases h.canEnd hstarted hkept with hcan | ⟨t, step⟩ | ⟨asked, watching, hat⟩
  · exact hcan
  · cases step with
    | find hat =>
        rw [hat.standing] at hnot
        exact absurd trivial hnot
  · rw [hat.standing] at hnot
    exact absurd trivial hnot

/-! ## The handle that an operation has found -/

/-- A run up to one of its steps, this step, and the run from there on. -/
theorem Run.split {e : Event} (h : Run s events t) (hmem : e ∈ events) :
    ∃ before after a b, events = before ++ e :: after ∧ Run s before a ∧ Step a e b ∧
      Run b after t := by
  induction h with
  | nil => cases hmem
  | @cons s m t first events step rest ih =>
      rcases List.mem_cons.1 hmem with rfl | hmem
      · exact ⟨[], events, s, m, rfl, .nil s, step, rest⟩
      · obtain ⟨before, after, a, b, rfl, hbefore, hstep, hafter⟩ := ih hmem
        exact ⟨first :: before, after, a, b, rfl, .cons step hbefore, hstep, hafter⟩

/-- An operation that works has found its handle, which has been opened. -/
theorem Run.issued_of_waiting {footing : Footing} (h : Run (start settings) events s)
    (hat : s.At op completion request .waiting footing)
    (hhandle : request.handle? = some (kind, id)) : (id, kind) ∈ issued events := by
  refine Run.history (P := fun events s => ∀ footing,
    s.At op completion request .waiting footing → (id, kind) ∈ issued events) ?_ ?_ h footing hat
  · intro _ hat
    cases hat.operation
  · intro earlier a b e hrun ih step footing hat
    rw [issued_append]
    refine List.mem_append_left _ ?_
    rcases step.course hrun.tidy op with ⟨-, hsame⟩ | ⟨act, rfl, hgoes⟩
    · exact ih footing (at_of_standing (hsame ▸ hat.standing))
    · rw [hat.standing] at hgoes
      generalize hhere : a.standing op = here at hgoes
      cases hgoes with
      | find =>
          have hopen := step.isOpen_of_find (at_of_standing hhere) hhandle
          exact ((hrun.ledger.get?_iff id kind).1 ((Handles.isOpen_iff ..).1 hopen)).1
      | ask | watch | hear | draw | enter | remove | miss | signal =>
          exact ih _ (at_of_standing hhere)

/-- What has been opened is open as long as nobody has taken it out. -/
theorem Run.isOpen_iff (h : Run (start settings) events s) (hissued : (id, kind) ∈ issued events) :
    s.network.handles.isOpen kind id = true ↔ id ∉ removals events := by
  rw [Handles.isOpen_iff, h.ledger.get?_iff]
  exact and_iff_right hissued

/-- An operation that has heard a reply has found its handle. -/
theorem Run.issued_of_hear (h : Run (start settings) events s)
    (hstarted : .op op (.start completion request) ∈ events) (hheard : .op op (.hear r) ∈ events)
    (hhandle : request.handle? = some (kind, id)) : (id, kind) ∈ issued events := by
  obtain ⟨before, after, a, b, rfl, hbefore, hstep, -⟩ := h.split hheard
  cases hstep with
  | hear hat =>
      obtain ⟨rfl, rfl⟩ :=
        h.request_eq hstarted (List.mem_append_left _ (hbefore.started_of_at hat))
      rw [issued_append]
      exact List.mem_append_left _ (hbefore.issued_of_waiting hat hhandle)

theorem Step.at_of_remove {found : Bool} (h : Step s (.op op (.remove id found)) t) :
    ∃ completion request cause, s.At op completion request .waiting (.heard (.loses id cause)) := by
  generalize hevent : Event.op op (.remove id found) = e at h
  cases h with
  | remove hat =>
      cases hevent
      exact ⟨_, _, _, hat⟩
  | _ => cases hevent

/-- An operation that does not find the connection that it loses comes too late: somebody has taken
the connection out. -/
theorem Run.removed_of_missed (h : Run (start settings) events s)
    (hstarted : .op op (.start completion request) ∈ events)
    (hhandle : request.handle? = some (.stream, id))
    (hmissed : .op op (.remove id false) ∈ events) : id ∈ removals events := by
  obtain ⟨before, after, a, b, rfl, hbefore, hstep, -⟩ := h.split hmissed
  obtain ⟨_, _, _, hat⟩ := hstep.at_of_remove
  obtain ⟨rfl, rfl⟩ := h.request_eq hstarted (List.mem_append_left _ (hbefore.started_of_at hat))
  have hclosed : a.network.handles.isOpen .stream id = false := hstep.tells.symm
  rw [removals_append]
  refine List.mem_append_left _ (Classical.not_not.1 fun hkept => ?_)
  rw [(hbefore.isOpen_iff (hbefore.issued_of_waiting hat hhandle)).2 hkept] at hclosed
  cases hclosed

end Shared
end ScriptHost.Network
